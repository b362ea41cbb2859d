import Filing.Bits
import Filing.Calendar
import Filing.Calendar.Reading
import Filing.Calendar.Text
import Filing.Classification
import Filing.CommandLine.Arguments
import Filing.CommandLine.Report
import Filing.CommandLine.SettingLines
import Filing.CommandLine.Setup
import Filing.Condition
import Filing.Condition.Evaluation
import Filing.Condition.Json
import Filing.Condition.Leaf
import Filing.Condition.Memory
import Filing.Condition.Reading
import Filing.Configuration
import Filing.Configuration.Json
import Filing.Configuration.Reading
import Filing.Configuration.Text
import Filing.Diagnostic
import Filing.Digest
import Filing.Document
import Filing.Double
import Filing.Double.Reading
import Filing.Double.Shortest
import Filing.Double.Text
import Filing.Error
import Filing.Files
import Filing.Fingerprint
import Filing.Index
import Filing.Inquiry
import Filing.Json.Reading
import Filing.Json.Text
import Filing.Json.Value
import Filing.Main
import Filing.Metrics
import Filing.Node
import Filing.Node.Reading
import Filing.Node.Scalar
import Filing.Pattern
import Filing.Pattern.Class
import Filing.Pattern.Reading
import Filing.Policy
import Filing.Policy.Application
import Filing.Policy.FieldAction
import Filing.Policy.Handler
import Filing.Policy.Reading
import Filing.Policy.Resolution
import Filing.Schema
import Filing.Schema.Checking
import Filing.Sequence.Walk
import Filing.Service
import Filing.Snapshot
import Filing.Source
import Filing.Store
import Filing.Text.Blank
import Filing.Text.CaseRuns
import Filing.Text.Cased
import Filing.Text.Category
import Filing.Text.Category.Letter
import Filing.Text.Category.Mark
import Filing.Text.Category.Number
import Filing.Text.Category.Punctuation
import Filing.Text.Category.Separator
import Filing.Text.Category.Symbol
import Filing.Text.Lowercase
import Filing.Text.Quoted
import Filing.Text.Ranges
import Filing.Yaml.Cursor
import Filing.Yaml.Reading
import Filing.Yaml.ScalarText
import Filing.Yaml.TagText
import Filing.Yaml.Token
import Filing.Yaml.Tree
import Filing.Proofs.Batch
import Filing.Proofs.Classification
import Filing.Proofs.Completeness
import Filing.Proofs.Condition.CaseSensitivity
import Filing.Proofs.Condition.Clean
import Filing.Proofs.Condition.Comparison
import Filing.Proofs.Condition.Expansion
import Filing.Proofs.Condition.Failure
import Filing.Proofs.Condition.Fields
import Filing.Proofs.Condition.Growth
import Filing.Proofs.Condition.Lexicon
import Filing.Proofs.Condition.Limit
import Filing.Proofs.Condition.Memory
import Filing.Proofs.Condition.Parts
import Filing.Proofs.Condition.Question
import Filing.Proofs.Condition.Reaching
import Filing.Proofs.Condition.Rereading
import Filing.Proofs.Condition.Values
import Filing.Proofs.Configuration.Canonical
import Filing.Proofs.Configuration.Content
import Filing.Proofs.Configuration.Reading
import Filing.Proofs.Configuration.Rereading
import Filing.Proofs.Desk
import Filing.Proofs.Document
import Filing.Proofs.Double.Integers
import Filing.Proofs.Double.Rounding
import Filing.Proofs.Double.Text
import Filing.Proofs.Index
import Filing.Proofs.Inquiry
import Filing.Proofs.Json.Distinct
import Filing.Proofs.Json.Proper
import Filing.Proofs.Json.Text
import Filing.Proofs.Node.Stable
import Filing.Proofs.Policy.Actions
import Filing.Proofs.Policy.CutOff
import Filing.Proofs.Policy.Details
import Filing.Proofs.Policy.Grammar
import Filing.Proofs.Policy.Prediction
import Filing.Proofs.Policy.Resolution
import Filing.Proofs.Policy.Stage
import Filing.Proofs.Policy.Stopping
import Filing.Proofs.Policy.Visits
import Filing.Proofs.Schema.Cache
import Filing.Proofs.Schema.Decision
import Filing.Proofs.Sequence.Default
import Filing.Proofs.Sequence.Extent
import Filing.Proofs.Sequence.Findings
import Filing.Proofs.Snapshot.Build
import Filing.Proofs.Snapshot.Canonical
import Filing.Proofs.Snapshot.Rearranged
import Filing.Proofs.Snapshot.WellFormed
import Filing.Proofs.Store.Counting
import Filing.Proofs.Store.Loading
import Filing.Proofs.Store.Machine
import Filing.Proofs.Store.Outdated
import Filing.Proofs.Store.Polling
import Filing.Proofs.Store.Publication
import Filing.Proofs.Store.Run
import Filing.Proofs.Store.Supersession
import Filing.Proofs.Text.Lowercase

/-!
# Rules that file documents

Rules say into which collections a document goes and what is done to it then. They are read, checked into a snapshot
and served by a store, and batches of documents are classified by them. The modules under `Filing.Proofs` hold what is
proved about that.

Some things are left out, since no answer depends on them:

* how many documents are classified at the same time, as a `Desk` lets them go on in any order;
* the guard that makes the callers of a store wait for one load, and the watcher that looks for changes at intervals:
  each use of a store is one step, and a look is `Store.checkForChanges`;
* when a snapshot was built and by which instance, of which only `Store.issue?` is told;
* how long documents take, which is counted as 0;
* what is written to a log.
-/
