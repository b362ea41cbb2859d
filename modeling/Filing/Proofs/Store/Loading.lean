import Filing.Proofs.Snapshot.Canonical
import Filing.Store

/-!
# Loading from a configuration in memory

What `Store.reload` and `Store.get` do over a source that holds one configuration or none. Such a source
answers "unchanged" where the fingerprint of what it holds is the one that is served, so a configuration is
built only when its fingerprint is another one, and a snapshot that was built is always published.
-/

namespace Filing

namespace Configuration

def builds (c : Configuration) : Bool :=
  match Snapshot.build c none with
  | .ok _ => true
  | .error _ => false

theorem builds_iff {c : Configuration} : c.builds = true ↔ ∃ s, Snapshot.build c none = .ok s := by
  unfold builds
  cases Snapshot.build c none <;> simp

end Configuration

theorem Snapshot.fingerprint_of_build {c : Configuration} {persisted : Option Instant} {s : Snapshot}
    (h : Snapshot.build c persisted = .ok s) : s.fingerprint = c.fingerprint :=
  (Snapshot.build_eq_ok_iff.mp h).fingerprint.symm

namespace Store
variable {held : Option Configuration} {now : Nat} {st : Store}

def asked (st : Store) : Store := { st with loads := st.loads + 1 }

theorem reload_of_known {c : Configuration} {s : Snapshot} (hs : st.current? = some s)
    (hf : s.fingerprint = c.fingerprint) :
    st.reload (.fixed (some c)) now = (.ok ⟨s, false⟩, { st.asked with stale := false }.check now false) := by
  simp only [reload, hs, Source.fixed, Source.ofHeld, Except.map, Except.bind, Option.map_some,
    Source.answer, hf, if_true, Load.snapshot]
  rfl

theorem reload_of_built {c : Configuration} {b : Snapshot}
    (hf : ∀ s, st.current? = some s → s.fingerprint ≠ c.fingerprint)
    (hb : Snapshot.build c none = .ok b) :
    st.reload (.fixed (some c)) now =
      (.ok ⟨b, false⟩, { st.asked.publish b with stale := false }.check now false) := by
  have hfb := Snapshot.fingerprint_of_build hb
  cases hs : st.current? with
  | none =>
    simp only [reload, hs, Source.fixed, Source.ofHeld, Except.map, Except.bind, Option.map_none,
      Source.answer, reduceCtorEq, if_false, Load.snapshot, hb, if_true]
    rfl
  | some s =>
    have hne := hf s hs
    simp only [reload, hs, Source.fixed, Source.ofHeld, Except.map, Except.bind, Option.map_some,
      Source.answer, Option.some.injEq, hne, if_false, Load.snapshot, hb, hfb, if_true]
    rfl

def Fails (held : Option Configuration) (st : Store) : Prop :=
  ∀ c, held = some c → c.builds = false ∧ ∀ s, st.current? = some s → s.fingerprint ≠ c.fingerprint

theorem reload_of_fails {s : Snapshot} (hs : st.current? = some s) (h : Fails held st) :
    st.reload (.fixed held) now = (.ok ⟨s, true⟩, st.asked.check now true) := by
  cases held with
  | none =>
    simp only [reload, hs, Source.fixed, Source.ofHeld, Except.map, Except.bind]
    rfl
  | some c =>
    obtain ⟨hb, hne⟩ := h c rfl
    have hne := hne s hs
    cases hbuild : Snapshot.build c none with
    | ok b =>
      rw [Configuration.builds_iff.mpr ⟨b, hbuild⟩] at hb
      cases hb
    | error e =>
      simp only [reload, hs, Source.fixed, Source.ofHeld, Except.map, Except.bind, Option.map_some,
        Source.answer, Option.some.injEq, hne, if_false, Load.snapshot, hbuild]
      rfl

theorem reload_of_fails_empty (now : Nat) (hs : st.current? = none) (h : Fails held st) :
    ∃ m, st.reload (.fixed held) now = (.error (.configurationUnavailable m), st.asked) := by
  cases held with
  | none =>
    simp only [reload, hs, Source.fixed, Source.ofHeld, Except.map, Except.bind]
    exact ⟨_, rfl⟩
  | some c =>
    obtain ⟨hb, -⟩ := h c rfl
    cases hbuild : Snapshot.build c none with
    | ok b =>
      rw [Configuration.builds_iff.mpr ⟨b, hbuild⟩] at hb
      cases hb
    | error e =>
      simp only [reload, hs, Source.fixed, Source.ofHeld, Except.map, Except.bind, Option.map_none,
        Source.answer, reduceCtorEq, if_false, Load.snapshot, hbuild]
      exact ⟨_, rfl⟩

/-- A load ends in one of three ways: what is served is kept, the configuration is built and published,
or there is nothing to load. -/
theorem reload_cases (held : Option Configuration) (st : Store) :
    (∃ c s, held = some c ∧ st.current? = some s ∧ s.fingerprint = c.fingerprint) ∨
      (∃ c b, held = some c ∧ Snapshot.build c none = .ok b ∧
        ∀ s, st.current? = some s → s.fingerprint ≠ c.fingerprint) ∨
      Fails held st := by
  cases held with
  | none => exact .inr (.inr fun c hc => nomatch hc)
  | some c =>
    by_cases hk : ∃ s, st.current? = some s ∧ s.fingerprint = c.fingerprint
    · obtain ⟨s, hs, hf⟩ := hk
      exact .inl ⟨c, s, rfl, hs, hf⟩
    · have hne : ∀ s, st.current? = some s → s.fingerprint ≠ c.fingerprint :=
        fun s hs hf => hk ⟨s, hs, hf⟩
      cases hb : Snapshot.build c none with
      | ok b => exact .inr (.inl ⟨c, b, rfl, hb, hne⟩)
      | error e =>
        refine .inr (.inr fun d hd => ?_)
        obtain rfl := Option.some.inj hd
        exact ⟨by rw [Configuration.builds, hb], hne⟩

theorem get_cases (source : Source) (now : Nat) (st : Store) :
    st.get source now = st.reload source now ∨
      ∃ s degraded, st.current? = some s ∧
        (st.get source now = (.ok ⟨s, degraded⟩, st) ∨
          st.get source now = (.ok ⟨s, degraded⟩, st.check now degraded)) := by
  unfold get fresh?
  cases hs : st.current? with
  | none =>
    left
    simp only [Option.map_none, ite_self, refresh, hs]
    cases st.stale <;> rfl
  | some s =>
    by_cases hdue : (st.stale || st.isDue now) = true
    · simp only [hdue, if_true, refresh, hs]
      cases st.stale with
      | true => exact .inl rfl
      | false =>
        cases source.currentFingerprint with
        | error e => exact .inr ⟨s, true, rfl, .inr rfl⟩
        | ok fingerprint =>
          by_cases hf : fingerprint = some s.fingerprint
          · simp only [hf, if_true]
            exact .inr ⟨s, false, rfl, .inr rfl⟩
          · left
            simp only [hf, if_false]
    · simp only [hdue, Bool.false_eq_true, if_false, Option.map_some]
      exact .inr ⟨s, st.degraded, rfl, .inl rfl⟩

theorem get_of_empty (source : Source) (now : Nat) (hs : st.current? = none) :
    st.get source now = st.reload source now := by
  simp only [get, fresh?, hs, Option.map_none, ite_self, refresh]
  cases st.stale <;> rfl

theorem get_of_stale (source : Source) (now : Nat) (hs : st.stale = true) :
    st.get source now = st.reload source now := by
  simp only [get, fresh?, hs, Bool.true_or, if_true, refresh]

end Store

end Filing
