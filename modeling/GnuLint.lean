import GnuLint.CommandLine.Run
import GnuLint.CommandLine.Snapshot
import GnuLint.Main
import GnuLint.Proofs.CommandLine.ExitCode
import GnuLint.Proofs.Finding.Grouping
import GnuLint.Proofs.Finding.Independence
import GnuLint.Proofs.Finding.Position
import GnuLint.Proofs.Fix.Accounting
import GnuLint.Proofs.Fix.Attempts
import GnuLint.Proofs.Fix.CarriageReturns
import GnuLint.Proofs.Fix.Completion
import GnuLint.Proofs.Fix.DiskSafety
import GnuLint.Proofs.Fix.Fixability
import GnuLint.Proofs.Fix.FreshFindings
import GnuLint.Proofs.Fix.LeadingText
import GnuLint.Proofs.Fix.LineLocality
import GnuLint.Proofs.Fix.OutputDirectory
import GnuLint.Proofs.Fix.ReportedCall
import GnuLint.Proofs.Fix.Rescan
import GnuLint.Proofs.Fix.StaleFindings
import GnuLint.Proofs.Fix.SuppliedOrder
import GnuLint.Proofs.Fix.TwoFindings
import GnuLint.Proofs.Grep.Escapes
import GnuLint.Proofs.Grep.Quoting
import GnuLint.Proofs.Grep.Refusal
import GnuLint.Proofs.Grep.Rereading
import GnuLint.Proofs.Grep.Translation
import GnuLint.Proofs.Report.TerminalCodes
import GnuLint.Proofs.Rule.Document
import GnuLint.Proofs.Rule.NormalForm
import GnuLint.Proofs.Text.Beginning
