import ScanSchema.Command.Disk
import ScanSchema.Main
import ScanSchema.Proofs.Diagnostic.Underlining
import ScanSchema.Proofs.Diagnostic.Wording
import ScanSchema.Proofs.Scan.ActionCode
import ScanSchema.Proofs.Scan.AfterEnd
import ScanSchema.Proofs.Scan.Conservation
import ScanSchema.Proofs.Scan.EndOfInput
import ScanSchema.Proofs.Scan.Filtering
import ScanSchema.Proofs.Scan.Lookahead
import ScanSchema.Proofs.Scan.Positions
import ScanSchema.Proofs.Scan.Resetting
import ScanSchema.Proofs.Scan.Resuming
import ScanSchema.Proofs.Scan.Stepping
import ScanSchema.Proofs.Scan.Termination
import ScanSchema.Proofs.Scan.Tokenizer
import ScanSchema.Proofs.Schema.Copies
import ScanSchema.Proofs.Schema.Counting
import ScanSchema.Proofs.Schema.Findings
import ScanSchema.Proofs.Schema.Jobs
import ScanSchema.Proofs.Schema.LeastOrder
import ScanSchema.Proofs.Schema.NameConflict
import ScanSchema.Proofs.Schema.Nonterminals
import ScanSchema.Proofs.Schema.Obtaining
import ScanSchema.Proofs.Schema.Optional
import ScanSchema.Proofs.Schema.Placement
import ScanSchema.Proofs.Schema.Regrouping
import ScanSchema.Proofs.Schema.Reordering
import ScanSchema.Proofs.Schema.Rules
import ScanSchema.Proofs.Schema.Stages
import ScanSchema.Proofs.Schema.Storing
import ScanSchema.Proofs.Schema.Uniting
import ScanSchema.Proofs.Schema.WellFormed
import ScanSchema.Proofs.Table.BinaryDamage
import ScanSchema.Proofs.Table.Codes
import ScanSchema.Proofs.Table.JsonRoundTrip
