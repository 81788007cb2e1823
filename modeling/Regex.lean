import Regex.Main
import Regex.Proofs.Arguments
import Regex.Proofs.Batch
import Regex.Proofs.Boundaries
import Regex.Proofs.Calls
import Regex.Proofs.Command
import Regex.Proofs.Conditions
import Regex.Proofs.Entries
import Regex.Proofs.Errors
import Regex.Proofs.FastPath
import Regex.Proofs.Input
import Regex.Proofs.Report
import Regex.Proofs.Twins
import Regex.Proofs.Validation
import Regex.Proofs.Faults.Pattern
import Regex.Proofs.Description
import Regex.Proofs.Resolve
import Regex.Proofs.Deciding
import Regex.Proofs.Numbers
