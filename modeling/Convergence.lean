import Convergence.Cluster.Wait
import Convergence.Http.Script
import Convergence.Layer.FileTree
import Convergence.Main
import Convergence.Proofs.Poll.Calls
import Convergence.Proofs.Poll.Rounds
import Convergence.Proofs.Poll.Undisturbed
import Convergence.Proofs.Poll.Cut
import Convergence.Proofs.Poll.Interleaving
import Convergence.Proofs.Poll.Cancellation
import Convergence.Proofs.Poll.Schedules
import Convergence.Proofs.Poll.Remainder
import Convergence.Proofs.Poll.Independence
import Convergence.Proofs.Poll.Apart
import Convergence.Proofs.Poll.Deciding
import Convergence.Proofs.Cluster.Answers
import Convergence.Proofs.Cluster.Waits
import Convergence.Proofs.Entries
import Convergence.Proofs.Layer.Merge
import Convergence.Proofs.Settings.Layers
import Convergence.Proofs.Settings.Usable
import Convergence.Proofs.Settings.Written
import Convergence.Proofs.Poll.Endings
import Convergence.Proofs.Poll.Observed
import Convergence.Proofs.Poll.Budget
import Convergence.Proofs.Poll.Alike
import Convergence.Proofs.Cluster.Models
import Convergence.Proofs.Refusals
import Convergence.Proofs.Poll.Outcomes
import Convergence.Proofs.Poll.Notices
import Convergence.Proofs.Poll.Milder
import Convergence.Proofs.Widening
import Convergence.Proofs.Layer.Paths
import Convergence.Proofs.Settings.Leaves
import Convergence.Proofs.Settings.Precedence
import Convergence.Proofs.Timeouts
import Convergence.Proofs.Text.Bytes
import Convergence.Proofs.Poll.Idle
import Convergence.Proofs.Listing
import Convergence.Proofs.Decode.Rearranged
import Convergence.Proofs.Decode.Layout
import Convergence.Proofs.Encodings
import Convergence.Proofs.Http.Stages
import Convergence.Proofs.Poll.Consequences
import Convergence.Proofs.Hangups
import Convergence.Proofs.Settings.Blame
import Convergence.Proofs.Cluster.LastSeen
import Convergence.Proofs.Statuses
import Convergence.Proofs.Poll.Counter
import Convergence.Proofs.Text.LowerCase
import Convergence.Proofs.Levels
import Convergence.Proofs.Poll.Asked
import Convergence.Proofs.Cluster.Spelling
import Convergence.Proofs.Changes
import Convergence.Proofs.Decode.Partial
import Convergence.Proofs.Settings.Partial
import Convergence.Proofs.Text.Truncate
