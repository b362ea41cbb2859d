import Filing.Proofs.Store.Run

/-!
# A store without an interval

A store that is never asked to look again by itself is a small machine: it has the fingerprint that it
serves, a mark for when that may be outdated, and its source. It loads where the mark is set or nothing is
served, and then only the configuration at that moment decides. `Deployment.machine` is what the machine
knows of a deployment. That a degraded store is always stale carries the proof, and so does that an
unchanged configuration would build again.
-/

namespace Filing

inductive Observation where
  | done
  | changed (b : Bool)
  | served (fingerprint : String) (degraded : Bool)
  | failed (kind : String)
deriving DecidableEq

def Reply.observe : Reply → Observation
  | .done => .done
  | .changed b => .changed b
  | .answer (.ok served) => .served served.snapshot.fingerprint served.degraded
  | .answer (.error e) => .failed e.kind

def Deployment.trace (d : Deployment) : List Event → List (Observation × Nat)
  | [] => []
  | e :: events =>
    let (reply, next) := d.step e
    (reply.observe, next.store.loads - d.store.loads) :: next.trace events

/-- What a source holds, which fingerprint is served, and whether that may be outdated. -/
structure Machine where
  held : Option Configuration
  served : Option String
  dirty : Bool

namespace Machine

def start (held : Option Configuration) : Machine := ⟨held, none, false⟩

def loadable (m : Machine) : Option String :=
  (m.held.filter Configuration.builds).map Configuration.fingerprint

def get (m : Machine) : Observation × Nat × Machine :=
  match m.served, m.dirty with
  | some f, false => (.served f false, 0, m)
  | served, _ =>
    match m.loadable, served with
    | some f, _ => (.served f false, 1, { m with served := some f, dirty := false })
    | none, some f => (.served f true, 1, m)
    | none, none => (.failed "configuration_unavailable", 1, m)

def checkForChanges (m : Machine) : Observation × Nat × Machine :=
  match m.served, m.held with
  | some f, some c =>
    if c.fingerprint ≠ f then (.changed true, 0, { m with dirty := true }) else (.changed false, 0, m)
  | _, _ => (.changed false, 0, m)

def step (m : Machine) : Event → Observation × Nat × Machine
  | .replace c => (.done, 0, { m with held := some c })
  | .setUnavailable => (.done, 0, { m with held := none })
  | .invalidate => (.done, 0, { m with dirty := true })
  | .checkForChanges => m.checkForChanges
  | .get _ => m.get

def trace (m : Machine) : List Event → List (Observation × Nat)
  | [] => []
  | e :: events =>
    let (seen, loads, next) := m.step e
    (seen, loads) :: next.trace events

theorem get_of_loadable {m : Machine} (hdue : m.served = none ∨ m.dirty = true) {f : String}
    (hf : m.loadable = some f) :
    m.get = (.served f false, 1, { m with served := some f, dirty := false }) := by
  rcases m with ⟨held, _ | g, _ | _⟩ <;> simp_all [get]

theorem get_of_unloadable {m : Machine} {f : String} (hs : m.served = some f) (hd : m.dirty = true)
    (hf : m.loadable = none) : m.get = (.served f true, 1, m) := by
  simp only [get, hs, hd, hf]

theorem get_of_empty {m : Machine} (hs : m.served = none) (hf : m.loadable = none) :
    m.get = (.failed "configuration_unavailable", 1, m) := by
  simp only [get, hs, hf]

theorem loadable_of_builds {m : Machine} {c : Configuration} (hc : m.held = some c)
    (hb : c.builds = true) : m.loadable = some c.fingerprint := by
  simp only [loadable, hc, Option.filter_some, hb, if_true, Option.map_some]

theorem loadable_of_fails {m : Machine} (h : ∀ c, m.held = some c → c.builds = false) :
    m.loadable = none := by
  cases hc : m.held with
  | none => simp only [loadable, hc, Option.filter_none, Option.map_none]
  | some c =>
    simp only [loadable, hc, Option.filter_some, h c hc, Bool.false_eq_true, if_false, Option.map_none]

end Machine

namespace Deployment

def machine (d : Deployment) : Machine where
  held := d.held
  served := d.store.current?.map Snapshot.fingerprint
  dirty := d.store.stale

/-- A deployment without an interval; one that is degraded will load next. -/
structure Regular (cs : List Configuration) (d : Deployment) : Prop extends Sourced cs d where
  interval : d.store.interval = none
  stale : d.store.degraded = true → d.store.stale = true

variable {cs : List Configuration} {d : Deployment}

theorem get_of_fresh {st : Store} {s : Snapshot} (hi : st.interval = none) (hs : st.stale = false)
    (hc : st.current? = some s) (source : Source) (now : Nat) :
    st.get source now = (.ok ⟨s, st.degraded⟩, st) := by
  simp only [Store.get, Store.fresh?, Store.isDue, hi, hs, Bool.or_self, Bool.false_eq_true, if_false, hc,
    Option.map_some]

theorem Sourced.builds_of_known (h : Sourced cs d) (hfree : CollisionFree cs) {c : Configuration}
    (hc : d.held = some c) {s : Snapshot} (hs : d.store.current? = some s)
    (hf : s.fingerprint = c.fingerprint) : c.builds = true := by
  obtain ⟨c', -, hb, hbytes⟩ := h.bytes_of_known hfree hc (List.mem_of_mem_head? hs) hf
  exact Configuration.builds_iff.mpr (Snapshot.exists_build_of_canonicalBytes hbytes ⟨s, hb⟩)

/-- A load is one step of the machine, and keeps the deployment regular. -/
theorem reload_machine (h : Regular cs d) (hfree : CollisionFree cs) (now : Nat)
    (hdue : d.store.current? = none ∨ d.store.stale = true) {answer : Except Error Served} {st : Store}
    (hre : d.store.reload d.source now = (answer, st)) :
    d.machine.get =
        ((Reply.answer answer).observe, st.loads - d.store.loads, machine { d with store := st }) ∧
      st.interval = none ∧ (st.degraded = true → st.stale = true) := by
  have hdue' : d.machine.served = none ∨ d.machine.dirty = true :=
    hdue.imp_left fun hs => by rw [machine, hs, Option.map_none]
  have hloads : d.store.loads + 1 - d.store.loads = 1 := Nat.add_sub_cancel_left ..
  rcases d.store.reload_cases d.held with ⟨c, s, hc, hs, hf⟩ | ⟨c, b, hc, hb, hne⟩ | hfail
  · have hbuilds := h.builds_of_known hfree hc hs hf
    rw [source, hc, Store.reload_of_known hs hf] at hre
    obtain ⟨rfl, rfl⟩ := Prod.mk.inj hre
    rw [Machine.get_of_loadable hdue' (Machine.loadable_of_builds hc hbuilds), ← hf]
    refine ⟨Prod.ext rfl (Prod.ext hloads.symm ?_), h.interval, fun hd => absurd hd Bool.false_ne_true⟩
    have hserved : d.store.current?.map Snapshot.fingerprint = some s.fingerprint := by
      rw [hs, Option.map_some]
    exact congrArg (Machine.mk d.held · false) hserved.symm
  · have hbuilds := Configuration.builds_iff.mpr ⟨b, hb⟩
    rw [source, hc, Store.reload_of_built hne hb] at hre
    obtain ⟨rfl, rfl⟩ := Prod.mk.inj hre
    rw [Machine.get_of_loadable hdue' (Machine.loadable_of_builds hc hbuilds),
      ← Snapshot.fingerprint_of_build hb]
    exact ⟨Prod.ext rfl (Prod.ext hloads.symm rfl), h.interval, fun hd => absurd hd Bool.false_ne_true⟩
  · have hload : d.machine.loadable = none := Machine.loadable_of_fails fun c hc => (hfail c hc).1
    cases hs : d.store.current? with
    | some s =>
      have hstale : d.store.stale = true := hdue.resolve_left (by rw [hs]; simp)
      have hserved : d.machine.served = some s.fingerprint := by rw [machine, hs, Option.map_some]
      rw [source, Store.reload_of_fails hs hfail] at hre
      obtain ⟨rfl, rfl⟩ := Prod.mk.inj hre
      rw [Machine.get_of_unloadable hserved hstale hload]
      exact ⟨Prod.ext rfl (Prod.ext hloads.symm rfl), h.interval, fun _ => hstale⟩
    | none =>
      have hserved : d.machine.served = none := by rw [machine, hs, Option.map_none]
      obtain ⟨message, hm⟩ := Store.reload_of_fails_empty now hs hfail
      rw [source, hm] at hre
      obtain ⟨rfl, rfl⟩ := Prod.mk.inj hre
      rw [Machine.get_of_empty hserved hload]
      exact ⟨Prod.ext rfl (Prod.ext hloads.symm rfl), h.interval, h.stale⟩

theorem checkForChanges_machine (h : Regular cs d) {changed : Bool} {st : Store}
    (hch : d.store.checkForChanges d.source = (changed, st)) :
    d.machine.checkForChanges = (.changed changed, st.loads - d.store.loads, machine { d with store := st }) ∧
      st.interval = none ∧ (st.degraded = true → st.stale = true) := by
  have hzero : d.store.loads - d.store.loads = 0 := Nat.sub_self _
  cases hs : d.store.current? with
  | none =>
    simp only [Store.checkForChanges, hs] at hch
    obtain ⟨rfl, rfl⟩ := Prod.mk.inj hch
    have hserved : d.machine.served = none := by rw [machine, hs, Option.map_none]
    simp only [Machine.checkForChanges, hserved]
    exact ⟨Prod.ext rfl (Prod.ext hzero.symm rfl), h.interval, h.stale⟩
  | some s =>
    have hserved : d.machine.served = some s.fingerprint := by rw [machine, hs, Option.map_some]
    obtain hheld | ⟨c, hheld⟩ := Option.eq_none_or_eq_some d.held
    · have hnone : d.machine.held = none := hheld
      simp only [Store.checkForChanges, hs, source, hheld, Source.fixed, Source.ofHeld, Except.map] at hch
      obtain ⟨rfl, rfl⟩ := Prod.mk.inj hch
      simp only [Machine.checkForChanges, hserved, hnone]
      exact ⟨Prod.ext rfl (Prod.ext hzero.symm rfl), h.interval, h.stale⟩
    · have hsome : d.machine.held = some c := hheld
      simp only [Store.checkForChanges, hs, source, hheld, Source.fixed, Source.ofHeld, Except.map] at hch
      simp only [Machine.checkForChanges, hserved, hsome]
      by_cases hf : c.fingerprint ≠ s.fingerprint
      · rw [if_pos hf] at hch ⊢
        obtain ⟨rfl, rfl⟩ := Prod.mk.inj hch
        have hnext : Machine.mk (some c) (some s.fingerprint) true =
            machine { d with store := d.store.invalidate } := by
          change _ = Machine.mk d.held (d.store.current?.map Snapshot.fingerprint) true
          rw [hheld, hs, Option.map_some]
        exact ⟨Prod.ext rfl (Prod.ext hzero.symm hnext), h.interval, fun _ => rfl⟩
      · rw [if_neg hf] at hch ⊢
        obtain ⟨rfl, rfl⟩ := Prod.mk.inj hch
        exact ⟨Prod.ext rfl (Prod.ext hzero.symm rfl), h.interval, h.stale⟩

theorem get_machine (h : Regular cs d) (hfree : CollisionFree cs) (now : Nat)
    {answer : Except Error Served} {st : Store} (hget : d.store.get d.source now = (answer, st)) :
    d.machine.get =
        ((Reply.answer answer).observe, st.loads - d.store.loads, machine { d with store := st }) ∧
      st.interval = none ∧ (st.degraded = true → st.stale = true) := by
  cases hs : d.store.current? with
  | none =>
    rw [Store.get_of_empty _ _ hs] at hget
    exact reload_machine h hfree now (.inl hs) hget
  | some s =>
    cases hstale : d.store.stale with
    | true =>
      rw [Store.get_of_stale _ _ hstale] at hget
      exact reload_machine h hfree now (.inr hstale) hget
    | false =>
      have hdegraded : d.store.degraded = false := by
        rw [Bool.eq_false_iff]
        intro hd
        rw [h.stale hd] at hstale
        cases hstale
      have hserved : d.machine.served = some s.fingerprint := by rw [machine, hs, Option.map_some]
      have hzero : d.store.loads - d.store.loads = 0 := Nat.sub_self _
      rw [get_of_fresh h.interval hstale hs, hdegraded] at hget
      obtain ⟨rfl, rfl⟩ := Prod.mk.inj hget
      have hdirty : d.machine.dirty = false := hstale
      simp only [Machine.get, hserved, hdirty]
      exact ⟨Prod.ext rfl (Prod.ext hzero.symm rfl), h.interval, h.stale⟩

theorem Regular.step (h : Regular cs d) (hfree : CollisionFree cs) {e : Event}
    (he : ∀ c, e.configuration? = some c → c ∈ cs) :
    d.machine.step e =
        ((d.step e).1.observe, (d.step e).2.store.loads - d.store.loads, (d.step e).2.machine) ∧
      Regular cs (d.step e).2 := by
  have hsourced := h.toSourced.step he
  have hzero : d.store.loads - d.store.loads = 0 := Nat.sub_self _
  cases e with
  | replace c => exact ⟨Prod.ext rfl (Prod.ext hzero.symm rfl), hsourced, h.interval, h.stale⟩
  | setUnavailable => exact ⟨Prod.ext rfl (Prod.ext hzero.symm rfl), hsourced, h.interval, h.stale⟩
  | invalidate => exact ⟨Prod.ext rfl (Prod.ext hzero.symm rfl), hsourced, h.interval, fun _ => rfl⟩
  | checkForChanges =>
    obtain ⟨hmachine, hinterval, hstale⟩ := checkForChanges_machine h rfl
    exact ⟨hmachine, hsourced, hinterval, hstale⟩
  | get now =>
    obtain ⟨hmachine, hinterval, hstale⟩ := get_machine h hfree now rfl
    exact ⟨hmachine, hsourced, hinterval, hstale⟩

theorem Regular.trace_eq (hfree : CollisionFree cs) (events : List Event) : ∀ {d : Deployment},
    Regular cs d → (∀ e ∈ events, ∀ c, e.configuration? = some c → c ∈ cs) →
      d.trace events = d.machine.trace events := by
  induction events with
  | nil => exact fun _ _ => rfl
  | cons e events ih =>
    intro d h he
    obtain ⟨hmachine, hnext⟩ := h.step hfree (he e List.mem_cons_self)
    rw [trace, Machine.trace, hmachine]
    exact congrArg (_ :: ·) (ih hnext fun e' he' => he e' (List.mem_cons_of_mem e he'))

/-- Without an interval a store is seen to do what the machine does, in any run. -/
theorem trace_eq_machine_trace (held : Option Configuration) (events : List Event)
    (hfree : CollisionFree (configurations held events)) :
    (start held none).trace events = (Machine.start held).trace events :=
  Regular.trace_eq hfree events ⟨sourced_start held none events, rfl, fun hd => nomatch hd⟩
    fun _ he _ hc => mem_configurations he hc

def untyped : Configuration where
  policies := [⟨1, "orphan", none, 7, 0, .null⟩]

def failingRun : List Event :=
  [.get 0, .replace untyped, .checkForChanges, .get 0, .setUnavailable, .get 0, .replace {}, .get 0]

theorem trace_of_failingRun :
    CollisionFree (configurations (some {}) failingRun) ∧
      (start (some {}) none).trace failingRun =
        [(.served (Configuration.fingerprint {}) false, 1), (.done, 0), (.changed true, 0),
          (.served (Configuration.fingerprint {}) true, 1), (.done, 0),
          (.served (Configuration.fingerprint {}) true, 1), (.done, 0),
          (.served (Configuration.fingerprint {}) false, 1)] := by
  have hfree : CollisionFree (configurations (some {}) failingRun) := by decide +kernel
  refine ⟨hfree, (trace_eq_machine_trace (some {}) failingRun hfree).trans ?_⟩
  decide +kernel

end Deployment

end Filing
