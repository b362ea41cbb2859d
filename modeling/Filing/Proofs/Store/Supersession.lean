import Filing.Proofs.Store.Publication

/-!
# Superseded snapshots

A service is used for some time, with a source that may become another one at any moment. A snapshot that was handed
out has a number, and under this number it stays the same for ever. It is marked from the moment on at which another
one takes its place, even if that is built from a configuration that was served before.
-/

namespace Filing

inductive Use where
  | source (source : Source)
  | invalidate
  | checkForChanges
  | get (now : Nat)

structure Session where
  service : Service
  source : Source

namespace Session

def start (pipeline : Pipeline) (interval : Option Nat) (source : Source) : Session :=
  ⟨{ pipeline, store := { interval } }, source⟩

def step (n : Session) : Use → Session
  | .source source => { n with source }
  | .invalidate => { n with service := n.service.invalidate }
  | .checkForChanges => { n with service := (n.service.checkForChanges n.source).2 }
  | .get now => { n with service := (n.service.get n.source now).2 }

def after (n : Session) (uses : List Use) : Session := uses.foldl step n

def store (n : Session) : Store := n.service.store

def snapshotLoads (n : Session) : UInt64 := n.service.metrics.snapshotLoads

/-- What holds of all snapshots that a service has published. -/
structure Orderly (n : Session) : Prop where
  marked : ∀ k s, n.store.edition? k = some s →
    (n.store.isInvalidated k = true ↔ n.store.currentNumber? ≠ some k)
  renewed : ∀ k s t, n.store.edition? k = some s → n.store.edition? (k + 1) = some t →
    s.fingerprint ≠ t.fingerprint
  counted : n.snapshotLoads = .ofNat n.store.editions.length
  served : ∀ now served, (n.service.get n.source now).1 = .ok served →
    ∃ k, (n.step (.get now)).store.currentNumber? = some k ∧
      (n.step (.get now)).store.edition? k = some served.snapshot
  kept : ∀ k s, n.store.edition? k = some s → ∀ uses, (n.after uses).store.edition? k = some s
  /-- Only a load that builds another snapshot replaces one, or marks or counts anything. -/
  still : ∀ use, (∀ now, use = .get now → ∀ b, ¬ n.source.Renews n.store.current? b) →
    n.store.SameBooks (n.step use).store ∧ (n.step use).snapshotLoads = n.snapshotLoads

structure Booked (n : Session) : Prop where
  store : n.store.Booked
  loads : n.snapshotLoads = .ofNat n.store.published

variable {n : Session}

theorem snapshotLoads_get (now : Nat) : (n.step (.get now)).snapshotLoads =
    n.snapshotLoads + .ofNat ((n.step (.get now)).store.published - n.store.published) := rfl

/-- A use publishes what the source loads, or it leaves the books as they are. -/
theorem step_spec (n : Session) (use : Use) :
    (∃ now b, use = .get now ∧ n.source.Renews n.store.current? b ∧
        (n.store.publish b).SameBooks (n.step use).store ∧
        (n.step use).snapshotLoads = n.snapshotLoads + 1) ∨
      n.store.SameBooks (n.step use).store ∧ (n.step use).snapshotLoads = n.snapshotLoads := by
  cases use with
  | source source => exact .inr ⟨⟨rfl, rfl, rfl⟩, rfl⟩
  | invalidate => exact .inr ⟨⟨rfl, rfl, rfl⟩, rfl⟩
  | checkForChanges => exact .inr ⟨n.store.sameBooks_checkForChanges n.source, rfl⟩
  | get now =>
    rcases n.store.get_spec n.source now with ⟨b, hb, -, hbooks⟩ | ⟨hbooks, -⟩
    · left
      have hpublished : (n.step (.get now)).store.published = n.store.published + 1 := hbooks.published
      refine ⟨now, b, rfl, hb, hbooks, ?_⟩
      rw [snapshotLoads_get, hpublished, Nat.add_sub_cancel_left]
      rfl
    · right
      have hpublished : (n.step (.get now)).store.published = n.store.published := hbooks.published
      refine ⟨hbooks, ?_⟩
      rw [snapshotLoads_get, hpublished, Nat.sub_self]
      exact UInt64.add_zero _

theorem Booked.step (h : n.Booked) (use : Use) : (n.step use).Booked := by
  rcases n.step_spec use with ⟨now, b, -, ⟨c, persisted, -, -, hne⟩, hbooks, hloads⟩ | ⟨hbooks, hloads⟩
  · refine ⟨(h.store.publish hne).sameBooks hbooks, ?_⟩
    have hpublished : (n.step use).store.published = n.store.published + 1 := hbooks.published
    rw [hloads, h.loads, hpublished, UInt64.ofNat_add]
    rfl
  · refine ⟨h.store.sameBooks hbooks, ?_⟩
    rw [hloads, h.loads, hbooks.published]

theorem edition?_step (use : Use) {k : Nat} {s : Snapshot} (h : n.store.edition? k = some s) :
    (n.step use).store.edition? k = some s := by
  rcases n.step_spec use with ⟨now, b, -, -, hbooks, -⟩ | ⟨hbooks, -⟩
  · have hlt := Store.lt_of_edition? h
    rw [hbooks.edition?, Store.edition?_publish, if_neg (Nat.ne_of_lt hlt)]
    exact h
  · rw [hbooks.edition?]
    exact h

theorem Booked.after (uses : List Use) : ∀ {n : Session}, n.Booked → (n.after uses).Booked := by
  induction uses with
  | nil => exact fun h => h
  | cons use uses ih => exact fun h => ih (h.step use)

theorem edition?_after (uses : List Use) {k : Nat} {s : Snapshot} :
    ∀ {n : Session}, n.store.edition? k = some s → (n.after uses).store.edition? k = some s := by
  induction uses with
  | nil => exact fun h => h
  | cons use uses ih => exact fun h => ih (edition?_step use h)

theorem isInvalidated_step (use : Use) {k : Nat} (h : n.store.isInvalidated k = true) :
    (n.step use).store.isInvalidated k = true := by
  rcases n.step_spec use with ⟨now, b, -, -, hbooks, -⟩ | ⟨hbooks, -⟩
  · rw [hbooks.isInvalidated, Store.isInvalidated, Store.publish, List.contains_append]
    exact Bool.or_eq_true_iff.mpr (.inr h)
  · rw [hbooks.isInvalidated]
    exact h

theorem isInvalidated_after (uses : List Use) {k : Nat} :
    ∀ {n : Session}, n.store.isInvalidated k = true → (n.after uses).store.isInvalidated k = true := by
  induction uses with
  | nil => exact fun h => h
  | cons use uses ih => exact fun h => ih (isInvalidated_step use h)

/-- What has been given out stays as it is, but for its mark, which is never taken back. -/
theorem issue?_after (uses : List Use) {instanceId : String} {created : Instant} {k : Nat} {i : Issue}
    (hi : n.store.issue? instanceId created k = some i) :
    ∃ marked, (n.after uses).store.issue? instanceId created k = some { i with invalidated := marked } ∧
      (i.invalidated = true → marked = true) := by
  rw [Store.issue?, Option.map_eq_some_iff] at hi
  obtain ⟨s, hs, rfl⟩ := hi
  refine ⟨(n.after uses).store.isInvalidated k, ?_, isInvalidated_after uses⟩
  rw [Store.issue?, edition?_after uses hs]
  rfl

theorem current?_of_get {now : Nat} {served : Served} (h : (n.service.get n.source now).1 = .ok served) :
    (n.step (.get now)).store.current? = some served.snapshot := by
  have hanswer : (n.store.get n.source now).1 = .ok served := h
  rcases n.store.get_spec n.source now with ⟨b, -, hb, hbooks⟩ | ⟨hbooks, hserved⟩
  · obtain rfl := Except.ok.inj (hb.symm.trans hanswer)
    exact hbooks.current?
  · exact hbooks.current?.trans (hserved served hanswer)

theorem Booked.orderly (h : n.Booked) : n.Orderly := by
  constructor
  case marked =>
    intro k s hs
    have hlt := Store.lt_of_edition? hs
    rw [h.store.marked, ne_eq, Store.currentNumber?_eq_some_iff]
    omega
  case renewed => exact h.store.renewed
  case counted => rw [h.loads, h.store.counted]
  case served =>
    intro now served hget
    have hcurrent := current?_of_get hget
    obtain ⟨k, hk⟩ : ∃ k, (n.step (.get now)).store.currentNumber? = some k := by
      unfold Store.current? at hcurrent
      unfold Store.currentNumber?
      cases he : (n.step (.get now)).store.editions with
      | nil => simp [he] at hcurrent
      | cons s earlier => exact ⟨_, rfl⟩
    refine ⟨k, hk, ?_⟩
    rw [Store.edition?_currentNumber hk]
    exact hcurrent
  case kept => exact fun k s hs uses => edition?_after uses hs
  case still =>
    intro use hno
    rcases n.step_spec use with ⟨now, b, huse, hb, -, -⟩ | hbooks
    · exact absurd hb (hno now huse b)
    · exact hbooks

/-- However a service is used, and with whatever sources, its published snapshots are in order at every moment. -/
theorem orderly_after (pipeline : Pipeline) (interval : Option Nat) (source : Source) (uses : List Use) :
    ((start pipeline interval source).after uses).Orderly := by
  have hstart : (start pipeline interval source).Booked := ⟨Store.Booked.start interval, rfl⟩
  exact (hstart.after uses).orderly

/-- Rules are replaced by others, and after an outage by the first ones again, which are a third snapshot. -/
example :
    let mail : Configuration := { lexicons := [⟨1, "mail", []⟩] }
    let pipeline : Pipeline := ⟨⟨fun _ _ _ => .ok true, fun _ _ _ => false⟩, .empty, fun _ _ => [], {}⟩
    let n := (start pipeline none (.fixed (some {}))).after
      [.get 0, .source (.fixed (some mail)), .invalidate, .get 0, .source (.fixed none), .invalidate, .get 0,
        .source (.fixed (some {})), .get 0, .get 0]
    n.store.invalidated = [1, 0] ∧ n.store.currentNumber? = some 2 ∧ n.snapshotLoads = 3 := by
  decide +kernel

end Session

end Filing
