import Filing.Proofs.Store.Run

/-!
# Polling and invalidating

A store that asks its source at every use, and a store that is told to be stale before every use, are not in
the same state: the one looks at the fingerprint first and is never stale, the other goes straight to load and
stays stale as long as the source fails. They still publish the same snapshots and give the same answers,
whatever happens to their source. `Deployment.Paired` is what they have in common.
-/

namespace Filing

namespace Store
variable {held : Option Configuration} {now later : Nat} {st st' : Store} {s : Snapshot}

theorem reload_congr (source : Source) (now later : Nat) (h : st.editions = st'.editions) :
    (st.reload source now).1 = (st'.reload source later).1 ∧
      (st.reload source now).2.editions = (st'.reload source later).2.editions := by
  have hcurrent : st.current? = st'.current? := by rw [current?, current?, h]
  unfold reload
  rw [hcurrent]
  cases (source.load (st'.current?.map Snapshot.fingerprint)).bind (Load.snapshot st'.current?) with
  | ok loaded =>
    obtain ⟨snapshot, new⟩ := loaded
    refine ⟨rfl, ?_⟩
    cases new with
    | true => exact congrArg (snapshot :: ·) h
    | false => exact h
  | error e => cases st'.current? <;> exact ⟨rfl, h⟩

/-- A store that polls without pause and is never invalidated. It has looked at its source if it serves
anything. -/
structure Polls (st : Store) : Prop where
  interval : st.interval = some 0
  stale : st.stale = false
  checked : st.current? = none ∨ ∃ t, st.lastChecked = some t

theorem Polls.check (h : st.Polls) (now : Nat) (degraded : Bool) : (st.check now degraded).Polls :=
  ⟨h.interval, h.stale, .inr ⟨now, rfl⟩⟩

theorem Polls.reload (h : st.Polls) (held : Option Configuration) (now : Nat) :
    (st.reload (.fixed held) now).2.Polls := by
  rcases st.reload_cases held with ⟨c, s, rfl, hs, hf⟩ | ⟨c, b, rfl, hb, hne⟩ | hfail
  · rw [reload_of_known hs hf]
    exact ⟨h.interval, rfl, .inr ⟨now, rfl⟩⟩
  · rw [reload_of_built hne hb]
    exact ⟨h.interval, rfl, .inr ⟨now, rfl⟩⟩
  · cases hs : st.current? with
    | some s =>
      rw [reload_of_fails hs hfail]
      exact ⟨h.interval, h.stale, .inr ⟨now, rfl⟩⟩
    | none =>
      obtain ⟨m, hm⟩ := reload_of_fails_empty now hs hfail
      rw [hm]
      exact ⟨h.interval, h.stale, .inl hs⟩

theorem Polls.get_eq_refresh (h : st.Polls) (hs : st.current? = some s) (source : Source) (now : Nat) :
    st.get source now = st.refresh source now := by
  obtain ⟨t, ht⟩ := h.checked.resolve_left (by rw [hs]; simp)
  simp [get, fresh?, isDue, h.interval, ht]

theorem Polls.get_of_known {c : Configuration} (h : st.Polls) (hs : st.current? = some s)
    (hf : s.fingerprint = c.fingerprint) (now : Nat) :
    st.get (.fixed (some c)) now = (.ok ⟨s, false⟩, st.check now false) := by
  rw [h.get_eq_refresh hs]
  simp only [refresh, h.stale, hs, Source.fixed, Source.ofHeld, Except.map, hf, if_true]

theorem Polls.get_of_changed {c : Configuration} (h : st.Polls) (hs : st.current? = some s)
    (hf : s.fingerprint ≠ c.fingerprint) (now : Nat) :
    st.get (.fixed (some c)) now = st.reload (.fixed (some c)) now := by
  rw [h.get_eq_refresh hs]
  simp only [refresh, h.stale, hs, Source.fixed, Source.ofHeld, Except.map, Option.some.injEq, hf.symm, if_false]

theorem Polls.get_of_unavailable (h : st.Polls) (hs : st.current? = some s) (now : Nat) :
    st.get (.fixed none) now = (.ok ⟨s, true⟩, st.check now true) := by
  rw [h.get_eq_refresh hs]
  simp only [refresh, h.stale, hs, Source.fixed, Source.ofHeld, Except.map]

theorem kind_of_reload {source : Source} {e : Error} (h : (st.reload source now).1 = .error e) :
    e.kind = "configuration_unavailable" := by
  unfold reload at h
  split at h
  · cases h
  · split at h
    · cases h
    · obtain rfl := Except.error.inj h
      rfl

theorem kind_of_get {source : Source} {e : Error} (h : (st.get source now).1 = .error e) :
    e.kind = "configuration_unavailable" := by
  have hrefresh (h : (st.refresh source now).1 = .error e) : e.kind = "configuration_unavailable" := by
    unfold refresh at h
    split at h
    · split at h
      · split at h
        · cases h
        · exact kind_of_reload h
      · cases h
    · exact kind_of_reload h
  unfold get at h
  cases hfresh : st.fresh? now with
  | some served =>
    rw [hfresh] at h
    cases h
  | none =>
    rw [hfresh] at h
    exact hrefresh h

/-- A use of a store that polls gives the answer of a load, publishes what the load publishes, and leaves a store
that polls. -/
theorem Polls.get (h : st.Polls) (h' : st.editions = st'.editions) (held : Option Configuration)
    (now later : Nat) :
    (st.get (.fixed held) now).1 = (st'.reload (.fixed held) later).1 ∧
      (st.get (.fixed held) now).2.editions = (st'.reload (.fixed held) later).2.editions ∧
      (st.get (.fixed held) now).2.Polls := by
  have hreload := reload_congr (.fixed held) now later h'
  cases hs : st.current? with
  | none =>
    rw [get_of_empty _ _ hs]
    exact ⟨hreload.1, hreload.2, h.reload held now⟩
  | some s =>
    have hs' : st'.current? = some s := by rw [← hs, current?, current?, h']
    cases held with
    | none =>
      have hfails : Fails none st' := fun c hc => nomatch hc
      rw [h.get_of_unavailable hs, reload_of_fails hs' hfails]
      exact ⟨rfl, h', h.check now true⟩
    | some c =>
      by_cases hf : s.fingerprint = c.fingerprint
      · rw [h.get_of_known hs hf, reload_of_known hs' hf]
        exact ⟨rfl, h', h.check now false⟩
      · rw [h.get_of_changed hs hf]
        exact ⟨hreload.1, hreload.2, h.reload (some c) now⟩

end Store

/-- What is done with two stores: their sources are given a configuration or have none for the time being, or
the one store is used at the first instant and the other one at the second. -/
inductive Act where
  | replace (configuration : Configuration)
  | setUnavailable
  | get (now later : Nat)

namespace Act

def polling : Act → List Event
  | .replace c => [.replace c]
  | .setUnavailable => [.setUnavailable]
  | .get now _ => [.get now]

def invalidating : Act → List Event
  | .replace c => [.replace c]
  | .setUnavailable => [.setUnavailable]
  | .get _ later => [.invalidate, .get later]

end Act

namespace Deployment

def answers (d : Deployment) : List Event → List (Except Error Served × Nat)
  | [] => []
  | e :: events =>
    let (reply, next) := d.step e
    match reply with
    | .answer answer => (answer, next.store.editions.length - d.store.editions.length) :: next.answers events
    | _ => next.answers events

theorem kind_of_mem_answers {e : Error} {n : Nat} (events : List Event) : ∀ {d : Deployment},
    (.error e, n) ∈ d.answers events → e.kind = "configuration_unavailable" := by
  induction events with
  | nil => exact fun h => nomatch h
  | cons event events ih =>
    intro d h
    cases event with
    | replace | setUnavailable | invalidate | checkForChanges => exact ih h
    | get now =>
      rcases List.mem_cons.mp h with h | h
      · exact Store.kind_of_get (Prod.mk.inj h).1.symm
      · exact ih h

/-- A store that polls without pause, and another one over the same source that has published the same. -/
structure Paired (polled forced : Deployment) : Prop where
  held : polled.held = forced.held
  editions : polled.store.editions = forced.store.editions
  polls : polled.store.Polls

theorem Paired.start (held : Option Configuration) (interval : Option Nat) :
    Paired (start held (some 0)) (start held interval) :=
  ⟨rfl, rfl, rfl, rfl, .inl rfl⟩

variable {polled forced : Deployment}

theorem Paired.get (h : Paired polled forced) (now later : Nat) :
    (polled.store.get polled.source now).1 = (forced.store.invalidate.get forced.source later).1 ∧
      Paired (polled.step (.get now)).2 ((forced.step .invalidate).2.step (.get later)).2 := by
  have hforced : forced.store.invalidate.get forced.source later =
      forced.store.invalidate.reload (.fixed polled.held) later := by
    rw [source, ← h.held]
    exact Store.get_of_stale _ _ rfl
  have hsame : polled.store.editions = forced.store.invalidate.editions := h.editions
  obtain ⟨hanswer, heditions, hpolls⟩ := h.polls.get hsame polled.held now later
  refine ⟨?_, h.held, ?_, hpolls⟩
  · rw [hforced]
    exact hanswer
  · calc (polled.store.get polled.source now).2.editions
        = (forced.store.invalidate.reload (.fixed polled.held) later).2.editions := heditions
      _ = (forced.store.invalidate.get forced.source later).2.editions := by rw [hforced]

theorem Paired.answers_eq (acts : List Act) : ∀ {polled forced : Deployment}, Paired polled forced →
    polled.answers (acts.flatMap Act.polling) = forced.answers (acts.flatMap Act.invalidating) := by
  induction acts with
  | nil => exact fun _ => rfl
  | cons act acts ih =>
    intro polled forced h
    cases act with
    | replace c => exact ih ⟨rfl, h.editions, h.polls⟩
    | setUnavailable => exact ih ⟨rfl, h.editions, h.polls⟩
    | get now later =>
      obtain ⟨hanswer, hnext⟩ := h.get now later
      have hheld : polled.store.editions.length = forced.store.invalidate.editions.length :=
        congrArg List.length h.editions
      refine congrArg₂ List.cons (Prod.ext hanswer ?_) (ih hnext)
      exact congrArg₂ (fun published before => List.length published - before) hnext.editions hheld

/-- A store that polls without pause and one that is invalidated before each use give the same answers and
publish new snapshots for the same uses, in any run. An answer without a snapshot is that the configuration is
unavailable. -/
theorem polling_eq_invalidating (held : Option Configuration) (acts : List Act) :
    (start held (some 0)).answers (acts.flatMap Act.polling) =
        (start held none).answers (acts.flatMap Act.invalidating) ∧
      ∀ e n, (.error e, n) ∈ (start held (some 0)).answers (acts.flatMap Act.polling) →
        e.kind = "configuration_unavailable" :=
  ⟨(Paired.start held none).answers_eq acts, fun _ _ h => kind_of_mem_answers _ h⟩

/-- An outage before anything is loaded, another one after that, and the same configuration again. -/
example : ((start none (some 0)).answers ([.get 0 1, .replace {}, .get 1 1, .setUnavailable, .get 2 3,
    .replace {}, .get 3 3].flatMap Act.polling)).map Prod.snd = [0, 1, 0, 0] := by
  decide +kernel

end Deployment

end Filing
