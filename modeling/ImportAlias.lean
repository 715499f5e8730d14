import ImportAlias.Main
import ImportAlias.Proofs.Clause.Extraction
import ImportAlias.Proofs.Report.Recovery
import ImportAlias.Proofs.Rule.Idempotence
import ImportAlias.Proofs.Run.Accounting
import ImportAlias.Proofs.Run.Completion
import ImportAlias.Proofs.Run.History
import ImportAlias.Proofs.Run.Repetition
import ImportAlias.Proofs.Target.Navigation
import ImportAlias.Proofs.Walk.Filtering
import ImportAlias.Proofs.Run.Parallel
import ImportAlias.Proofs.Run.Reporting
import ImportAlias.Proofs.Run.Foretelling
import ImportAlias.Proofs.Run.Spelling
import ImportAlias.Proofs.Clause.Occurrence
import ImportAlias.Proofs.Clause.Frame
import ImportAlias.Proofs.Rule.Delimiting
import ImportAlias.Proofs.Target.Anchoring
import ImportAlias.Proofs.Run.Comparison
import ImportAlias.Proofs.Redirect.Replacements
import ImportAlias.Proofs.Document.Saving
import ImportAlias.Proofs.Command.Colour
