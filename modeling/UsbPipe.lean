import UsbPipe.Text.Digits
import UsbPipe.Text.Blank
import UsbPipe.Usb.RawInterface
import UsbPipe.Usb.Filter
import UsbPipe.Hex
import UsbPipe.Json.Codec
import UsbPipe.Native.Error
import UsbPipe.Pool
import UsbPipe.Manager.Scan
import UsbPipe.Manager.Transfer
import UsbPipe.Manager.Shutdown
import UsbPipe.Bench.Basic
import UsbPipe.Command.Basic
import UsbPipe.Bench.Session
import UsbPipe.Pool.Holders
import UsbPipe.Host.Session
import UsbPipe.Event
import UsbPipe.Files.Tree
import UsbPipe.Toml.Parser
import UsbPipe.Toml.Printer
import UsbPipe.Config.Store
import UsbPipe.LogFilter
import UsbPipe.Program.Run
import UsbPipe.Main
import UsbPipe.Proofs.Named
import UsbPipe.Proofs.Pool.Backing
import UsbPipe.Proofs.Pool.Holding
import UsbPipe.Proofs.Pool.Sharing
import UsbPipe.Proofs.Scan.Invariant
import UsbPipe.Proofs.Manager.Table
import UsbPipe.Proofs.Manager.Frame
import UsbPipe.Proofs.Manager.Stock
import UsbPipe.Proofs.Manager.Balance
import UsbPipe.Proofs.Manager.Opening
import UsbPipe.Proofs.Manager.Closing
import UsbPipe.Proofs.Manager.Roster
import UsbPipe.Proofs.Command.Balance
import UsbPipe.Proofs.Command.Neutral
import UsbPipe.Proofs.Manager.Instances
import UsbPipe.Proofs.Manager.Reasons
import UsbPipe.Proofs.Session.Frame
import UsbPipe.Proofs.Session.Balance
import UsbPipe.Proofs.Session.FailedOpen
import UsbPipe.Proofs.Session.Provenance
import UsbPipe.Proofs.Scan.Reference
import UsbPipe.Proofs.Scan.Looks
import UsbPipe.Proofs.Scan.Narrowing
import UsbPipe.Proofs.Scan.Pipes
import UsbPipe.Proofs.Scan.Selection
import UsbPipe.Proofs.Scan.Backends
import UsbPipe.Proofs.Json.Reading
import UsbPipe.Proofs.Json.RoundTrip
import UsbPipe.Proofs.Manager.Target
import UsbPipe.Proofs.Session.Resolved
import UsbPipe.Proofs.Manager.TransferLog
import UsbPipe.Proofs.Manager.Claims
import UsbPipe.Proofs.Session.Ledger
import UsbPipe.Proofs.Session.TransferLog
import UsbPipe.Proofs.Session.Claims
import UsbPipe.Proofs.Program.Ending
import UsbPipe.Proofs.Threads.Calls
import UsbPipe.Proofs.Threads.Basic
import UsbPipe.Proofs.Threads.Worked
import UsbPipe.Proofs.Threads.Alone
import UsbPipe.Proofs.Threads.Orderly
import UsbPipe.Proofs.Threads.Granted
import UsbPipe.Proofs.Threads.Teardown
import UsbPipe.Proofs.Threads.Wakeups
import UsbPipe.Proofs.Threads.Pace
import UsbPipe.Proofs.Threads.Phases
import UsbPipe.Proofs.Threads.Timely
import UsbPipe.Proofs.Threads.Discipline
import UsbPipe.Proofs.Scan.Filtering
import UsbPipe.Proofs.Scan.Sources
import UsbPipe.Proofs.Session.Selected
import UsbPipe.Proofs.Manager.Watching
import UsbPipe.Proofs.Manager.Ladder
import UsbPipe.Proofs.Session.Ladder
import UsbPipe.Proofs.Manager.Holds
import UsbPipe.Proofs.Threads.Holding
import UsbPipe.Proofs.Threads.Closing
import UsbPipe.Proofs.Threads.Once
import UsbPipe.Proofs.Hex.Payload
import UsbPipe.Proofs.Hex.Rendering
import UsbPipe.Proofs.Hex.Id
import UsbPipe.Proofs.Config.Ids
import UsbPipe.Proofs.Host.Version
import UsbPipe.Proofs.Json.Pretty
import UsbPipe.Proofs.Command.Listing
import UsbPipe.Proofs.Manager.Timeouts
import UsbPipe.Proofs.Session.Timeouts
import UsbPipe.Proofs.Program.Timeouts
import UsbPipe.Proofs.Manager.Shutdown
import UsbPipe.Proofs.Session.Shutdown
import UsbPipe.Proofs.Session.Resumed
import UsbPipe.Proofs.Threads.TimedOut
import UsbPipe.Proofs.Scan.Configurations
import UsbPipe.Proofs.Toml.Lines
import UsbPipe.Proofs.Toml.Sections
import UsbPipe.Proofs.Config.Document
import UsbPipe.Proofs.Files.Tree
import UsbPipe.Proofs.Config.Store
import UsbPipe.Proofs.Manager.Waiting
import UsbPipe.Proofs.Session.Delivery
