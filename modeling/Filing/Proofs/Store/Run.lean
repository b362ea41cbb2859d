import Filing.Proofs.Store.Loading

/-!
# Runs of a store

A deployment is a store over a source that holds one configuration or none, and a run is any sequence of
the five things that can happen to it. Whatever the run, each snapshot that was ever published was built
from a configuration that the source held at some time.
-/

namespace Filing

inductive Event where
  | replace (configuration : Configuration)
  | setUnavailable
  | invalidate
  | checkForChanges
  | get (now : Nat)

inductive Reply where
  | done
  | changed (changed : Bool)
  | answer (answer : Except Error Served)

structure Deployment where
  held : Option Configuration
  store : Store

namespace Deployment

def start (held : Option Configuration) (interval : Option Nat) : Deployment := ⟨held, { interval }⟩

def source (d : Deployment) : Source := .fixed d.held

def step (d : Deployment) : Event → Reply × Deployment
  | .replace c => (.done, { d with held := some c })
  | .setUnavailable => (.done, { d with held := none })
  | .invalidate => (.done, { d with store := d.store.invalidate })
  | .checkForChanges =>
    let (changed, store) := d.store.checkForChanges d.source
    (.changed changed, { d with store })
  | .get now =>
    let (answer, store) := d.store.get d.source now
    (.answer answer, { d with store })

def after (d : Deployment) (events : List Event) : Deployment := events.foldl (fun d e => (d.step e).2) d

end Deployment

def Event.configuration? : Event → Option Configuration
  | .replace c => some c
  | _ => none

def configurations (held : Option Configuration) (events : List Event) : List Configuration :=
  held.toList ++ events.filterMap Event.configuration?

/-- No two of the configurations have different bytes with one digest. -/
def CollisionFree (cs : List Configuration) : Prop :=
  ∀ c ∈ cs, ∀ d ∈ cs, c.fingerprint = d.fingerprint → c.canonicalBytes = d.canonicalBytes

instance (cs : List Configuration) : Decidable (CollisionFree cs) :=
  inferInstanceAs (Decidable (∀ c ∈ cs, ∀ d ∈ cs, c.fingerprint = d.fingerprint →
    c.canonicalBytes = d.canonicalBytes))

namespace Deployment

structure Sourced (cs : List Configuration) (d : Deployment) : Prop where
  held : ∀ c, d.held = some c → c ∈ cs
  built : ∀ s ∈ d.store.editions, ∃ c ∈ cs, Snapshot.build c none = .ok s

variable {cs : List Configuration} {d : Deployment}

theorem editions_checkForChanges (st : Store) (source : Source) :
    (st.checkForChanges source).2.editions = st.editions := by
  unfold Store.checkForChanges
  split
  · split <;> rfl
  · rfl

theorem editions_reload (st : Store) (held : Option Configuration) (now : Nat) :
    (st.reload (.fixed held) now).2.editions = st.editions ∨
      ∃ c b, held = some c ∧ Snapshot.build c none = .ok b ∧
        (st.reload (.fixed held) now).2.editions = b :: st.editions := by
  rcases st.reload_cases held with ⟨c, s, rfl, hs, hf⟩ | ⟨c, b, rfl, hb, hne⟩ | hfail
  · rw [Store.reload_of_known hs hf]
    exact .inl rfl
  · rw [Store.reload_of_built hne hb]
    exact .inr ⟨c, b, rfl, hb, rfl⟩
  · cases hs : st.current? with
    | some s =>
      rw [Store.reload_of_fails hs hfail]
      exact .inl rfl
    | none =>
      obtain ⟨m, hm⟩ := Store.reload_of_fails_empty now hs hfail
      rw [hm]
      exact .inl rfl

theorem Sourced.step (h : Sourced cs d) {e : Event} (he : ∀ c, e.configuration? = some c → c ∈ cs) :
    Sourced cs (d.step e).2 := by
  cases e with
  | replace c =>
    refine ⟨fun c' hc => ?_, h.built⟩
    obtain rfl := Option.some.inj hc
    exact he c rfl
  | setUnavailable => exact ⟨(fun _ hc => nomatch hc), h.built⟩
  | invalidate => exact ⟨h.held, h.built⟩
  | checkForChanges =>
    refine ⟨h.held, fun s hs => h.built s ?_⟩
    rw [← editions_checkForChanges d.store d.source]
    exact hs
  | get now =>
    refine ⟨h.held, fun s hs => ?_⟩
    have hs : s ∈ (d.store.get d.source now).2.editions := hs
    rcases d.store.get_cases d.source now with hget | ⟨_, _, -, hget | hget⟩
    · rw [hget] at hs
      rcases editions_reload d.store d.held now with hre | ⟨c, b, hc, hb, hre⟩
      · rw [source, hre] at hs
        exact h.built s hs
      · rw [source, hre] at hs
        rcases List.mem_cons.mp hs with rfl | hs
        · exact ⟨c, h.held c hc, hb⟩
        · exact h.built s hs
    · rw [hget] at hs
      exact h.built s hs
    · rw [hget] at hs
      exact h.built s hs

theorem Sourced.bytes_of_known (h : Sourced cs d) (hfree : CollisionFree cs) {c : Configuration}
    (hc : d.held = some c) {s : Snapshot} (hs : s ∈ d.store.editions)
    (hf : s.fingerprint = c.fingerprint) :
    ∃ c' ∈ cs, Snapshot.build c' none = .ok s ∧ c'.canonicalBytes = c.canonicalBytes := by
  obtain ⟨c', hc', hb⟩ := h.built s hs
  have hfingerprint := (Snapshot.fingerprint_of_build hb).symm.trans hf
  exact ⟨c', hc', hb, hfree c' hc' c (h.held c hc) hfingerprint⟩

theorem Sourced.after (events : List Event) : ∀ {d : Deployment}, Sourced cs d →
    (∀ e ∈ events, ∀ c, e.configuration? = some c → c ∈ cs) → Sourced cs (d.after events) := by
  induction events with
  | nil => exact fun h _ => h
  | cons e events ih =>
    intro d h he
    exact ih (h.step (he e List.mem_cons_self)) fun e' he' => he e' (List.mem_cons_of_mem e he')

theorem sourced_start (held : Option Configuration) (interval : Option Nat) (events : List Event) :
    Sourced (configurations held events) (start held interval) := by
  refine ⟨fun c hc => ?_, fun s hs => nomatch hs⟩
  exact List.mem_append_left _ (Option.mem_toList.mpr hc)

theorem mem_configurations {held : Option Configuration} {events : List Event} {e : Event}
    (he : e ∈ events) {c : Configuration} (hc : e.configuration? = some c) :
    c ∈ configurations held events :=
  List.mem_append_right _ (List.mem_filterMap.mpr ⟨e, he, hc⟩)

/-- After any run only configurations of the run are held and published. -/
theorem sourced_after (held : Option Configuration) (interval : Option Nat) (events : List Event) :
    Sourced (configurations held events) ((start held interval).after events) :=
  (sourced_start held interval events).after events fun _ he _ hc => mem_configurations he hc

end Deployment

end Filing
