import Filing.Snapshot
import Filing.Source

/-!
# The store of snapshots

A store serves the latest snapshot of a source. It asks the source when it has no snapshot, when it has
been told that its snapshot is stale, and when the time for the next look has come. As long as the source
fails, the last good snapshot is served as degraded. A snapshot is kept as the same one as long as the
fingerprint stays the same; when another one is published it is marked, for those who still use it.
-/

namespace Filing

structure Served where
  snapshot : Snapshot
  degraded : Bool

structure Store where
  /-- After how many milliseconds the source is asked again. -/
  interval : Option Nat := none
  /-- All snapshots that were ever published, the latest first. -/
  editions : List Snapshot := []
  /-- The numbers of those that have been marked because another one took their place. -/
  invalidated : List Nat := []
  stale : Bool := false
  degraded : Bool := false
  lastChecked : Option Nat := none
  loads : Nat := 0
  /-- How many publications the counters have been told of. -/
  published : Nat := 0

/-- A snapshot as it is given out: with the instance that it comes from, when it was built, and whether another one
has taken its place. -/
structure Issue where
  snapshot : Snapshot
  instanceId : String
  created : Instant
  invalidated : Bool

def Load.snapshot (current : Option Snapshot) : Load → Except Error (Snapshot × Bool)
  | .unchanged =>
    match current with
    | some known => .ok (known, false)
    | none =>
      .error (.internal "configuration source reported no change but no snapshot exists")
  | .loaded c persisted =>
    match Snapshot.build c persisted, current with
    | .error e, _ => .error e
    | .ok built, some known =>
      if known.fingerprint = built.fingerprint then .ok (known, false) else .ok (built, true)
    | .ok built, none => .ok (built, true)

namespace Store

def current? (s : Store) : Option Snapshot := s.editions.head?

/-- The number of the latest snapshot. They are numbered from 0 in the order in which they were published. -/
def currentNumber? (s : Store) : Option Nat :=
  match s.editions with
  | [] => none
  | _ :: earlier => some earlier.length

def edition? (s : Store) (number : Nat) : Option Snapshot := s.editions.reverse[number]?

def isInvalidated (s : Store) (number : Nat) : Bool := s.invalidated.contains number

def issue? (instanceId : String) (created : Instant) (number : Nat) (s : Store) : Option Issue :=
  (s.edition? number).map fun snapshot => ⟨snapshot, instanceId, created, s.isInvalidated number⟩

def isDue (now : Nat) (s : Store) : Bool :=
  match s.interval, s.lastChecked with
  | some interval, some checked => interval ≤ now - checked
  | _, _ => false

def fresh? (now : Nat) (s : Store) : Option Served :=
  if s.stale || s.isDue now then none else s.current?.map (⟨·, s.degraded⟩)

def check (now : Nat) (degraded : Bool) (s : Store) : Store :=
  { s with degraded, lastChecked := some now }

def publish (snapshot : Snapshot) (s : Store) : Store :=
  { s with
    editions := snapshot :: s.editions
    invalidated := s.currentNumber?.toList ++ s.invalidated
    published := s.published + 1 }

/-- Asks the source to load. A store that was stale stays so if that fails. -/
def reload (source : Source) (now : Nat) (s : Store) : Except Error Served × Store :=
  let asked := { s with loads := s.loads + 1 }
  match (source.load (s.current?.map Snapshot.fingerprint)).bind (Load.snapshot s.current?) with
  | .ok (snapshot, new) =>
    let served := if new then asked.publish snapshot else asked
    (.ok ⟨snapshot, false⟩, { served with stale := false }.check now false)
  | .error e =>
    match s.current? with
    | some snapshot => (.ok ⟨snapshot, true⟩, asked.check now true)
    | none =>
      (.error (.configurationUnavailable
        ("no snapshot could be loaded from " ++ source.name ++ ": " ++ e.message)), asked)

/-- Asks the source whether the latest snapshot is still good, and to load if it cannot tell or the
snapshot is not. -/
def refresh (source : Source) (now : Nat) (s : Store) : Except Error Served × Store :=
  match s.stale, s.current? with
  | false, some snapshot =>
    match source.currentFingerprint with
    | .ok fingerprint =>
      if fingerprint = some snapshot.fingerprint then (.ok ⟨snapshot, false⟩, s.check now false)
      else s.reload source now
    | .error _ => (.ok ⟨snapshot, true⟩, s.check now true)
  | _, _ => s.reload source now

def get (source : Source) (now : Nat) (s : Store) : Except Error Served × Store :=
  match s.fresh? now with
  | some served => (.ok served, s)
  | none => s.refresh source now

def invalidate (s : Store) : Store := { s with stale := true }

/-- Looks whether the source has moved away from the latest snapshot, which then is stale. -/
def checkForChanges (source : Source) (s : Store) : Bool × Store :=
  match s.current?, source.currentFingerprint with
  | some snapshot, .ok (some fingerprint) =>
    if fingerprint ≠ snapshot.fingerprint then (true, s.invalidate) else (false, s)
  | _, _ => (false, s)

end Store

end Filing
