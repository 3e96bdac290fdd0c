import LedgerQuery.Main
import LedgerQuery.Value.Grouped
import LedgerQuery.Proofs.CommandLine.Frame
import LedgerQuery.Proofs.CommandLine.Run
import LedgerQuery.Proofs.Completion.Cutting
import LedgerQuery.Proofs.Completion.Offering
import LedgerQuery.Proofs.Database.Restating
import LedgerQuery.Proofs.Display.Money
import LedgerQuery.Proofs.Display.Value
import LedgerQuery.Proofs.Evaluation.Aggregating
import LedgerQuery.Proofs.Evaluation.Expansion
import LedgerQuery.Proofs.Evaluation.Observing
import LedgerQuery.Proofs.Evaluation.Recursion
import LedgerQuery.Proofs.Evaluation.Selecting
import LedgerQuery.Proofs.Log.Threshold
import LedgerQuery.Proofs.Operation.Aggregation
import LedgerQuery.Proofs.Query.Composition
import LedgerQuery.Proofs.Query.Position
import LedgerQuery.Proofs.Query.Line
import LedgerQuery.Proofs.Session.Boundary
import LedgerQuery.Proofs.Session.Loop
import LedgerQuery.Proofs.Session.Retyping
import LedgerQuery.Proofs.Session.Typing
import LedgerQuery.Proofs.Settings.Spelling
