import Filing.Condition.Leaf

/-!
# Leaves from memory

What leaves need is made ready once and kept: patterns that compile for good, and the terms of lexicons for the
snapshot that terms were made ready for last, which is told by its fingerprint.
-/

namespace Filing

structure LeafMemory where
  patterns : Index (Prod.fst : String × Pattern → String) := .empty
  /-- Terms, with the fingerprint of a snapshot and the identifier of a lexicon. -/
  terms : List ((String × Int) × Terms) := []

namespace LeafMemory

def pattern (p : String) (m : LeafMemory) : Except ConditionFault Pattern × LeafMemory :=
  match m.patterns.get? p with
  | some (_, pattern) => (.ok pattern, m)
  | none =>
    match Pattern.ready p with
    | .ok pattern => (.ok pattern, { m with patterns := m.patterns.insert (p, pattern) })
    | .error fault => (.error fault, m)

/-- Gives the terms of a lexicon. When they are new, those for other snapshots are forgotten. -/
def termsOf (s : Snapshot) (id : Int) (m : LeafMemory) : Except ConditionFault Terms × LeafMemory :=
  match m.terms.lookup (s.fingerprint, id) with
  | some terms => (.ok terms, m)
  | none =>
    match s.terms id with
    | .ok terms =>
      let kept := m.terms.filter fun e => e.1.1 == s.fingerprint
      (.ok terms, { m with terms := ((s.fingerprint, id), terms) :: kept })
    | .error fault => (.error fault, m)

def prepare (s : Snapshot) (m : LeafMemory) : Test → LeafMemory
  | .regex p => (m.pattern p).2
  | .lexicon id _ => (m.termsOf s id).2
  | _ => m

def evaluate (s : Snapshot) (d : Document) (l : Leaf) (m : LeafMemory) : Except Error Bool × LeafMemory :=
  (l.evaluateWith (fun p => (m.pattern p).1) (fun id => (m.termsOf s id).1) s d, m.prepare s l.test)

end LeafMemory

end Filing
