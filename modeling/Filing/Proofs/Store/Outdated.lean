import Filing.Proofs.Classification
import Filing.Proofs.Configuration.Reading
import Filing.Proofs.Store.Run

/-!
# Outdated rules

After an invalidation the store loads, and it keeps the snapshot that it has where the fingerprint is still
the same. That snapshot gives what the configuration of the source would give, as long as the numbers of
that configuration are finite. Where one is not, it is null in the bytes that the fingerprint is taken of,
and the rules of another configuration may be kept.
-/

namespace Filing

namespace Deployment
variable {cs : List Configuration} {d : Deployment}

/-- What is served right after an invalidation, and not as degraded, gives what the configuration that is
held would give, if the numbers there are finite. -/
theorem Sourced.reloaded (h : Sourced cs d) (hfree : CollisionFree cs) (hplain : ∀ c ∈ cs, c.Plain)
    {now : Nat} {served : Snapshot}
    (hreply : ((d.step .invalidate).2.step (.get now)).1 = .answer (.ok ⟨served, false⟩)) :
    ∃ c fresh, d.held = some c ∧ Snapshot.build c none = .ok fresh ∧
      ((∀ x ∈ c.numbers, x.isFinite) → served.Agrees fresh) := by
  have hget : (d.store.invalidate.get (.fixed d.held) now).1 = .ok ⟨served, false⟩ :=
    Reply.answer.inj hreply
  rw [Store.get_of_stale _ _ rfl] at hget
  rcases d.store.invalidate.reload_cases d.held with ⟨c, s, hc, hs, hf⟩ | ⟨c, b, hc, hb, hne⟩ | hfail
  · rw [hc, Store.reload_of_known hs hf] at hget
    obtain ⟨rfl, -⟩ := Served.mk.inj (Except.ok.inj hget)
    obtain ⟨c', hc', hs', hbytes⟩ := h.bytes_of_known hfree hc (List.mem_of_mem_head? hs) hf
    obtain ⟨fresh, hfresh⟩ := Snapshot.exists_build_of_canonicalBytes hbytes ⟨s, hs'⟩
    refine ⟨c, fresh, hc, hfresh, fun hfinite registry validator settings sequence document => ?_⟩
    have hsame := Snapshot.build_eq_of_canonical (hplain c' hc') (hplain c (h.held c hc)) hfinite
      (Configuration.canonicalBytes_eq_iff.mp hbytes) hs' hfresh
    rw [hsame, Pipeline.outcome_dated]
  · rw [hc, Store.reload_of_built hne hb] at hget
    obtain ⟨rfl, -⟩ := Served.mk.inj (Except.ok.inj hget)
    exact ⟨c, b, hc, hb, fun _ _ _ _ _ _ => rfl⟩
  · cases hs : d.store.invalidate.current? with
    | some s =>
      rw [Store.reload_of_fails hs hfail] at hget
      cases hget
    | none =>
      obtain ⟨m, hm⟩ := Store.reload_of_fails_empty now hs hfail
      rw [hm] at hget
      cases hget

end Deployment

inductive NonFinite where
  | infinity (negative : Bool)
  | nan

namespace NonFinite

def double : NonFinite → Double
  | infinity negative => .infinity negative
  | nan => .nan

def text : NonFinite → String
  | infinity negative => if negative then "-.inf" else ".inf"
  | nan => ".nan"

def rival : NonFinite → NonFinite
  | infinity negative => infinity !negative
  | nan => infinity false

end NonFinite

/-- The numbers of the configuration are finite, but for those that are allowed. -/
def Configuration.Within (allowed : List NonFinite) (c : Configuration) : Prop :=
  ∀ x ∈ c.numbers, x.isFinite ∨ ∃ n ∈ allowed, x = n.double

/-- After any run over configurations that can be read, what is served right after an invalidation, and
not as degraded, agrees with what the configuration builds that the source holds, if its numbers are
finite or allowed. -/
def Deployment.ReloadLaw (allowed : List NonFinite) : Prop :=
  ∀ (held : Option Configuration) (interval : Option Nat) (events : List Event) (now : Nat)
    (served : Snapshot),
    (∀ c ∈ configurations held events, c.Readable) → CollisionFree (configurations held events) →
      let d := (start held interval).after events
      ((d.step .invalidate).2.step (.get now)).1 = .answer (.ok ⟨served, false⟩) →
      ∃ c, d.held = some c ∧
        (c.Within allowed → ∃ fresh, Snapshot.build c none = .ok fresh ∧ served.Agrees fresh)

def sizeLimit (bound : Double) : Configuration where
  sequences := [⟨1, "limits", none, [⟨1, false, .ofList [1], none⟩]⟩]
  collections := [⟨1, "small", none, .leaf ⟨"size", .number .less bound⟩, .empty⟩]

def sizeLimitText (bound : String) : String :=
  "sequences:\n- \x7bid: 1, name: limits, entries: [\x7border: 1, collection_ids: [1]\x7d]\x7d\n" ++
    "collections:\n- \x7bid: 1, name: small, " ++
      "condition: \x7btype: number, field: size, operator: lt, value: " ++ bound ++ "\x7d\x7d\n"

def Snapshot.matchedByOne (s : Snapshot) : Option IdSet :=
  ((Pipeline.builtIn .empty (fun _ _ => []) {}).outcome s 1 ⟨"report", .ofList [("size", ["1"])]⟩).map
    DocumentResult.matched

theorem matchedByOne_rival (n : NonFinite) :
    (Snapshot.build (sizeLimit n.rival.double) none).toOption.map Snapshot.matchedByOne ≠
      (Snapshot.build (sizeLimit n.double) none).toOption.map Snapshot.matchedByOne := by
  rcases n with (_ | _) | _ <;> decide +kernel

theorem not_agrees_rival {n : NonFinite} {s t : Snapshot}
    (hs : Snapshot.build (sizeLimit n.rival.double) none = .ok s)
    (ht : Snapshot.build (sizeLimit n.double) none = .ok t) : ¬ s.Agrees t := by
  intro h
  have hne := matchedByOne_rival n
  rw [hs, ht] at hne
  refine hne (congrArg some ?_)
  rw [Snapshot.matchedByOne, Snapshot.matchedByOne, h]

theorem ofYaml_sizeLimitText (n : NonFinite) :
    Configuration.ofYaml (sizeLimitText n.text) = .ok (sizeLimit n.double) := by
  rcases n with (_ | _) | _ <;> decide +kernel

theorem readable_sizeLimit (n : NonFinite) : (sizeLimit n.double).Readable :=
  ⟨sizeLimitText n.text, .inl (ofYaml_sizeLimitText n)⟩

theorem numbers_sizeLimit (x : Double) : (sizeLimit x).numbers = [x] := rfl

theorem builds_sizeLimit (x : Double) : ∃ s, Snapshot.build (sizeLimit x) none = .ok s := ⟨_, rfl⟩

theorem canonicalBytes_sizeLimit (m n : NonFinite) :
    (sizeLimit m.double).canonicalBytes = (sizeLimit n.double).canonicalBytes := by
  refine Configuration.canonicalBytes_eq_iff.mpr ?_
  rcases m with (_ | _) | _ <;> rcases n with (_ | _) | _ <;> rfl

namespace Deployment

def exchange (n : NonFinite) : List Event := [.get 0, .replace (sizeLimit n.double)]

theorem mem_exchange {n : NonFinite} {c : Configuration}
    (hc : c ∈ configurations (some (sizeLimit n.rival.double)) (exchange n)) :
    c = sizeLimit n.rival.double ∨ c = sizeLimit n.double := by
  have hc : c ∈ [sizeLimit n.rival.double, sizeLimit n.double] := hc
  simpa using hc

theorem kept_by_exchange (n : NonFinite) :
    ∃ s, Snapshot.build (sizeLimit n.rival.double) none = .ok s ∧
      ((((start (some (sizeLimit n.rival.double)) none).after (exchange n)).step .invalidate).2.step
        (.get 0)).1 = .answer (.ok ⟨s, false⟩) := by
  obtain ⟨s, hs⟩ := builds_sizeLimit n.rival.double
  refine ⟨s, hs, ?_⟩
  have hfingerprint : s.fingerprint = (sizeLimit n.double).fingerprint := by
    rw [Snapshot.fingerprint_of_build hs, Configuration.fingerprint,
      canonicalBytes_sizeLimit n.rival n, Configuration.fingerprint]
  have hnone : ({} : Store).current? = none := rfl
  have hfirst := Store.get_of_empty (.fixed (some (sizeLimit n.rival.double))) 0 hnone
  rw [Store.reload_of_built (by simp [hnone]) hs] at hfirst
  simp only [exchange, after, List.foldl_cons, List.foldl_nil, step, start, source, hfirst]
  rw [Store.get_of_stale _ _ rfl, Store.reload_of_known rfl hfingerprint]

/-- The store is told to load again, and goes on matching what is below the old bound, infinity, where the
new one is minus infinity. -/
theorem kept_infinite_bound :
    Configuration.ofYaml (sizeLimitText ".inf") = .ok (sizeLimit (.infinity false)) ∧
      Configuration.ofYaml (sizeLimitText "-.inf") = .ok (sizeLimit (.infinity true)) ∧
      ∃ s fresh,
        ((((start (some (sizeLimit (.infinity false))) none).after
          [.get 0, .replace (sizeLimit (.infinity true))]).step .invalidate).2.step (.get 0)).1 =
            .answer (.ok ⟨s, false⟩) ∧
        Snapshot.build (sizeLimit (.infinity true)) none = .ok fresh ∧
        s.matchedByOne = some (.ofList [1]) ∧ fresh.matchedByOne = some .empty := by
  refine ⟨ofYaml_sizeLimitText (.infinity false), ofYaml_sizeLimitText (.infinity true), ?_⟩
  obtain ⟨s, hs, hreply⟩ := kept_by_exchange (.infinity true)
  obtain ⟨fresh, hfresh⟩ := builds_sizeLimit (.infinity true)
  have hold : (Snapshot.build (sizeLimit (.infinity false)) none).toOption.map Snapshot.matchedByOne =
      some (some (.ofList [1])) := by decide +kernel
  have hnew : (Snapshot.build (sizeLimit (.infinity true)) none).toOption.map Snapshot.matchedByOne =
      some (some .empty) := by decide +kernel
  have hs' : Snapshot.build (sizeLimit (.infinity false)) none = .ok s := hs
  rw [hs'] at hold
  rw [hfresh] at hnew
  exact ⟨s, fresh, hreply, hfresh, Option.some.inj hold, Option.some.inj hnew⟩

/-- The law holds for finite numbers only. -/
theorem reloadLaw_iff (allowed : List NonFinite) : ReloadLaw allowed ↔ allowed = [] := by
  constructor
  · intro h
    refine List.eq_nil_iff_forall_not_mem.mpr fun n hn => ?_
    obtain ⟨s, hs, hreply⟩ := kept_by_exchange n
    have hread : ∀ c ∈ configurations (some (sizeLimit n.rival.double)) (exchange n), c.Readable := by
      intro c hc
      rcases mem_exchange hc with rfl | rfl
      · exact readable_sizeLimit n.rival
      · exact readable_sizeLimit n
    have hfree : CollisionFree (configurations (some (sizeLimit n.rival.double)) (exchange n)) := by
      intro c hc c' hc' _
      rcases mem_exchange hc with rfl | rfl <;> rcases mem_exchange hc' with rfl | rfl <;>
        exact canonicalBytes_sizeLimit _ _
    obtain ⟨c, hc, hlaw⟩ := h _ none _ 0 s hread hfree hreply
    obtain rfl := Option.some.inj hc
    have hwithin : (sizeLimit n.double).Within allowed := by
      intro x hx
      rw [numbers_sizeLimit] at hx
      exact .inr ⟨n, hn, List.mem_singleton.mp hx⟩
    obtain ⟨fresh, hfresh, hagrees⟩ := hlaw hwithin
    exact not_agrees_rival hs hfresh hagrees
  · rintro rfl held interval events now served hread hfree d hreply
    have hsourced := sourced_after held interval events
    obtain ⟨c, fresh, hc, hfresh, hagrees⟩ :=
      hsourced.reloaded hfree (fun c hc => (hread c hc).plain) hreply
    refine ⟨c, hc, fun hwithin => ⟨fresh, hfresh, hagrees fun x hx => ?_⟩⟩
    rcases hwithin x hx with hfinite | ⟨n, hn, -⟩
    · exact hfinite
    · cases hn

end Deployment

end Filing
