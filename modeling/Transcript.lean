import Transcript.Main
import Transcript.Proofs.Computation
import Transcript.Proofs.Run.Resume
import Transcript.Proofs.Text.Lines
import Transcript.Proofs.Run.Composition
import Transcript.Proofs.Expectation.Comparison
import Transcript.Proofs.Run.History
import Transcript.Proofs.Run.Effect
import Transcript.Proofs.EditDistance.Recurrence
import Transcript.Proofs.Expectation.Lines
import Transcript.Proofs.Run.Replay
import Transcript.Proofs.Pattern.Matching
import Transcript.Proofs.Pattern.Program
import Transcript.Proofs.Pattern.Search
import Transcript.Proofs.Unicode.CharSet
import Transcript.Proofs.Pattern.Builders
import Transcript.Proofs.Pattern.Trailing
import Transcript.Proofs.Pattern.TrailingSets
import Transcript.Proofs.Pattern.Wrapping
import Transcript.Proofs.Pattern.Alternatives
import Transcript.Proofs.Pattern.Groups
import Transcript.Proofs.Pattern.Beginning
import Transcript.Proofs.Pattern.Anchoring
import Transcript.Proofs.Expectation.WholeLine
import Transcript.Proofs.Run.Scratch
import Transcript.Proofs.Run.Validation
import Transcript.Proofs.Script.RoundTrip
import Transcript.Proofs.Run.Confinement
import Transcript.Proofs.Run.Isolation
import Transcript.Proofs.Variables.Absence
import Transcript.Proofs.Variables.Regular
import Transcript.Proofs.Run.Acceptance
import Transcript.Proofs.Run.SingleLine
import Transcript.Proofs.Report.Listing
import Transcript.Proofs.Run.Ending
import Transcript.Proofs.EditDistance.Edits
import Transcript.Proofs.Expectation.Decision
import Transcript.Proofs.Suite.Totals
import Transcript.Proofs.Variables.Levels
import Transcript.Proofs.Variables.Closing
import Transcript.Proofs.Script.Accounting
import Transcript.Proofs.Pattern.Preference
import Transcript.Proofs.Pattern.Runs
import Transcript.Proofs.Script.Grammar
import Transcript.Proofs.Script.Tokens
import Transcript.Proofs.Variables.Scanning
import Transcript.Proofs.Variables.Faults
import Transcript.Proofs.Variables.Dependence
import Transcript.Proofs.FileTree.Copying
import Transcript.Proofs.Run.Copies
import Transcript.Proofs.FileTree.Directories
import Transcript.Proofs.Run.Creation
import Transcript.Proofs.Run.Freshness
import Transcript.Proofs.Run.Removals
import Transcript.Proofs.Suite.Details
import Transcript.Proofs.Deadline.Polls
import Transcript.Proofs.FileTree.PathOrder
import Transcript.Proofs.FileTree.Below
import Transcript.Proofs.Suite.Discovery
import Transcript.Proofs.Variables.Iteration
import Transcript.Proofs.Report.Alignment
