import Filing.Condition.Evaluation
import Filing.Diagnostic

/-!
# Walking a sequence

The entries of a sequence are looked at in order, all collections of an entry together, until an entry
that stops the walk has a match. A collection whose condition fails counts as no match and leaves a
diagnostic. The default collection is taken from the entries with a match, as long as there is none.
-/

namespace Filing

inductive TieBreak where
  | lowestId
  | highestId
  | none
deriving DecidableEq, Repr

def TieBreak.pick (tieBreak : TieBreak) (matched : IdSet) : Option Int :=
  match tieBreak with
  | .lowestId => matched.items.head?
  | .highestId => matched.items.getLast?
  | .none => Option.none

/-- What was found for the collections of an entry, by ascending identifier. -/
abbrev Findings := List (Int × Verdict)

namespace Findings

def matched (findings : Findings) : IdSet :=
  .ofList (findings.filterMap fun (id, v) => if v matches .ok true then some id else none)

def diagnostics (findings : Findings) : List Diagnostic :=
  findings.filterMap fun (id, v) =>
    match v with
    | .error e => some ⟨.collection id, e⟩
    | .ok _ => none

end Findings

namespace Entry

/-- The collections of an entry that the snapshot has, by ascending identifier. -/
def collections (s : Snapshot) (e : Entry) : List Collection :=
  e.collectionIds.items.filterMap s.collection?

def findings (judge : Collection → Verdict) (s : Snapshot) (e : Entry) : Findings :=
  (e.collections s).map fun c => (c.id, judge c)

/-- The default that an entry gives when these collections match: its nominated one if that matches,
and otherwise what the tie-break picks. -/
def default? (tieBreak : TieBreak) (e : Entry) (matched : IdSet) : Option Int :=
  match e.defaultCollectionId with
  | some id => if matched.contains id then some id else tieBreak.pick matched
  | none => tieBreak.pick matched

end Entry

structure Walk where
  matched : IdSet
  default : Option Int
  diagnostics : List Diagnostic
  entries : Nat
deriving DecidableEq

namespace Walk

def start : Walk := ⟨.empty, none, [], 0⟩

def record (tieBreak : TieBreak) (w : Walk) (e : Entry) (findings : Findings) : Walk :=
  let matched := findings.matched
  { matched := w.matched.union matched
    default :=
      if matched.items.isEmpty || w.default.isSome then w.default else e.default? tieBreak matched
    diagnostics := w.diagnostics ++ findings.diagnostics
    entries := w.entries + 1 }

def through (tieBreak : TieBreak) (look : Entry → Findings) (w : Walk) : List Entry → Walk
  | [] => w
  | e :: es =>
    let findings := look e
    let w := w.record tieBreak e findings
    if e.stopOnMatch && !findings.matched.items.isEmpty then w else w.through tieBreak look es

end Walk

namespace Sequence

def walkWith (tieBreak : TieBreak) (judge : Collection → Verdict) (s : Snapshot) (q : Sequence) :
    Walk :=
  Walk.start.through tieBreak (Entry.findings judge s) q.entries

def walk (tieBreak : TieBreak) (leaf : Leaf → Verdict) (limit : Nat) (s : Snapshot)
    (q : Sequence) : Walk :=
  q.walkWith tieBreak (Collection.evaluate leaf s limit) s

def reached (tieBreak : TieBreak) (leaf : Leaf → Verdict) (limit : Nat) (s : Snapshot)
    (q : Sequence) : List Entry :=
  q.entries.take (q.walk tieBreak leaf limit s).entries

end Sequence

end Filing
