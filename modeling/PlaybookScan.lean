import PlaybookScan.Lint.Session
import PlaybookScan.Main
import PlaybookScan.Proofs.Findings.Attribution
import PlaybookScan.Proofs.Lint.Outcome
import PlaybookScan.Process.Capture
import PlaybookScan.Proofs.FileSet
import PlaybookScan.Proofs.Lint.Calls
import PlaybookScan.Proofs.Findings.Agreement
import PlaybookScan.Proofs.Lint.Distinctness
import PlaybookScan.Proofs.Lint.Independence
import PlaybookScan.Proofs.Lint.Order
import PlaybookScan.Proofs.Lint.Catalogue
import PlaybookScan.Proofs.Lint.Session
import PlaybookScan.Proofs.Lint.Accounts
import PlaybookScan.Proofs.Process.Sinks
import PlaybookScan.Proofs.Process.Interrupt
import PlaybookScan.Proofs.Process.Machine
import PlaybookScan.Proofs.Lint.Interruption
import PlaybookScan.Proofs.Cli.Scan
import PlaybookScan.Proofs.Cli.Collection
import PlaybookScan.Proofs.Cli.LineCount
import PlaybookScan.Proofs.Diagnostic.Choice
import PlaybookScan.Proofs.Findings.Registration
import PlaybookScan.Proofs.Lint.Relay
import PlaybookScan.Proofs.Cli.RuleList
import PlaybookScan.Proofs.Cli.Properties
