import FilterQuery.Main
import FilterQuery.Proofs.Independence
import FilterQuery.Proofs.IntegerLiterals
import FilterQuery.Proofs.MarkCount
import FilterQuery.Proofs.Placeholders
import FilterQuery.Proofs.Precedence
import FilterQuery.Proofs.Unambiguous
import FilterQuery.Proofs.SelectionGrammar
import FilterQuery.Proofs.Building
import FilterQuery.Proofs.Reordering
import FilterQuery.Proofs.FirstProblem
import FilterQuery.Proofs.Joining
import FilterQuery.Proofs.Simplification
import FilterQuery.Proofs.Ordering
import FilterQuery.Proofs.Pages
import FilterQuery.Proofs.Influence
import FilterQuery.Proofs.Mentions
import FilterQuery.Proofs.EventLog
import FilterQuery.Proofs.RoundTrip
import FilterQuery.Proofs.OutputFormats
import FilterQuery.Proofs.Balance
