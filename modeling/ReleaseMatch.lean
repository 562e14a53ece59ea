import ReleaseMatch.Json.Read
import ReleaseMatch.Log.Session
import ReleaseMatch.Main
import ReleaseMatch.Proofs.Conjunction.Anchored
import ReleaseMatch.Proofs.Conjunction.Operators
import ReleaseMatch.Proofs.Conjunction.Spliced
import ReleaseMatch.Proofs.Conjunction.Standalone
import ReleaseMatch.Proofs.Disjunction.Branches
import ReleaseMatch.Proofs.Disjunction.Unique
import ReleaseMatch.Proofs.Document.Bare
import ReleaseMatch.Proofs.Document.Json
import ReleaseMatch.Proofs.Document.Sheet
import ReleaseMatch.Proofs.Log.Line
import ReleaseMatch.Proofs.Log.Session
import ReleaseMatch.Proofs.Outcome.Classes
import ReleaseMatch.Proofs.Outcome.Expression
import ReleaseMatch.Proofs.Outcome.Gates
import ReleaseMatch.Proofs.Outcome.Growth
import ReleaseMatch.Proofs.Outcome.Meaning
import ReleaseMatch.Proofs.Outcome.Readable
import ReleaseMatch.Proofs.Outcome.Segments
import ReleaseMatch.Proofs.Outcome.Values
import ReleaseMatch.Proofs.Outcome.Verdict
import ReleaseMatch.Proofs.Settings.Limits
import ReleaseMatch.Proofs.Settings.Names
import ReleaseMatch.Proofs.Terminal.Agreement
import ReleaseMatch.Proofs.Terminal.Hidden
import ReleaseMatch.Proofs.Terminal.Invalid
import ReleaseMatch.Proofs.Terminal.Precedence
import ReleaseMatch.Proofs.Terminal.Refusal
