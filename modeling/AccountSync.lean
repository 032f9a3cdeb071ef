import AccountSync.Main
import AccountSync.Script
import AccountSync.Proofs.Principal.RoundTrip
import AccountSync.Proofs.Principal.Grammar
import AccountSync.Proofs.Text.Numeral
import AccountSync.Proofs.Queue.Format
import AccountSync.Proofs.Queue.Faults
import AccountSync.Proofs.Files.Lookup
import AccountSync.Proofs.Drain.Reentry
import AccountSync.Proofs.Drain.Lossless
import AccountSync.Proofs.Drain.Outcome
import AccountSync.Proofs.Directory.Machine
import AccountSync.Proofs.CommandLine.Options
import AccountSync.Proofs.Run.Agreement
import AccountSync.Proofs.Secrecy.Backends
import AccountSync.Proofs.Secrecy.Inputs
import AccountSync.Proofs.Secrecy.Run
import AccountSync.Proofs.Run.Confined
import AccountSync.Proofs.Directory.Orderly
import AccountSync.Proofs.Run.Returns
import AccountSync.Proofs.Run.Report
import AccountSync.Proofs.Run.Release
import AccountSync.Proofs.Files.Unlink
import AccountSync.Proofs.Directory.Switch
import AccountSync.Proofs.Drain.Retry
import AccountSync.Proofs.CommandLine.Requests
import AccountSync.Proofs.Drain.Canonical
import AccountSync.Proofs.Directory.Exchange
import AccountSync.Proofs.Directory.Toggle
import AccountSync.Proofs.Directory.FilterForm
import AccountSync.Proofs.Directory.Search
import AccountSync.Proofs.Drain.Verdict
import AccountSync.Proofs.Drain.Stages
import AccountSync.Proofs.Queue.Limits
import AccountSync.Proofs.Queue.FirstFault
import AccountSync.Proofs.Drain.Renewal
import AccountSync.Proofs.Run.Immediate
import AccountSync.Proofs.Principal.Realm
import AccountSync.Proofs.Queue.Failing
import AccountSync.Proofs.Run.Marks
import AccountSync.Proofs.Directory.Unflagged
import AccountSync.Proofs.Principal.Unambiguous
import AccountSync.Proofs.Run.Levels
import AccountSync.Proofs.Run.Unforged
