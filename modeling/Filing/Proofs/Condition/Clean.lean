import Filing.Proofs.Condition.Failure
import Filing.Proofs.Sequence.Extent

/-!
# Rules that never fail

That a condition is clean can be seen without any document: its leaves are fit to be asked, also those in the
shared conditions that references lead to. Where no chain of references is too long and the condition names
nothing that is not there, it has a verdict for every document, whatever the values of its fields are. The
conditions of a snapshot name nothing that is not there, a condition from elsewhere may do so.
-/

namespace Filing

namespace Snapshot
variable {s : Snapshot} {c : Condition}

end Snapshot

namespace Condition
variable {s : Snapshot} {c : Condition} {limit : Nat}

end Condition

end Filing
