import Upkeep.Assertion.Basic
import Upkeep.Assertion.Encoding
import Upkeep.Assertion.Normal
import Upkeep.Assertion.Order
import Upkeep.Assertion.Validity
import Upkeep.Auth.Method
import Upkeep.Auth.Prompter
import Upkeep.Bytes.Base64
import Upkeep.Bytes.Basic
import Upkeep.Bytes.Hex
import Upkeep.Bytes.MD5
import Upkeep.CommandLine.Arguments
import Upkeep.CommandLine.Execution
import Upkeep.CommandLine.Help
import Upkeep.CommandLine.Paths
import Upkeep.Console.Display
import Upkeep.Console.Label
import Upkeep.Console.Prompt
import Upkeep.Document.Basic
import Upkeep.Document.Number
import Upkeep.Document.Record
import Upkeep.Fault
import Upkeep.Files.Access
import Upkeep.Files.Disk
import Upkeep.Files.Home
import Upkeep.Files.Walk
import Upkeep.Hcl.Body
import Upkeep.Hcl.Expression
import Upkeep.Hcl.Number
import Upkeep.Hcl.Reader
import Upkeep.Hcl.Text
import Upkeep.Json.Printer
import Upkeep.Json.Reader
import Upkeep.Key.Armour
import Upkeep.Key.Decode
import Upkeep.Key.Der
import Upkeep.Key.Label
import Upkeep.Key.OpenSsh
import Upkeep.Machine.Basic
import Upkeep.Machine.Encoding
import Upkeep.Machine.Validity
import Upkeep.Main
import Upkeep.Named
import Upkeep.Note
import Upkeep.Pattern.Basic
import Upkeep.Pattern.Bracket
import Upkeep.Pattern.Flaw
import Upkeep.Pattern.Interval
import Upkeep.Pattern.Lines
import Upkeep.Pattern.Reader
import Upkeep.Pattern.Recall
import Upkeep.Pattern.Search
import Upkeep.Proofs.Accepted
import Upkeep.Proofs.Arrangement
import Upkeep.Proofs.Blocks
import Upkeep.Proofs.Brackets
import Upkeep.Proofs.Calls
import Upkeep.Proofs.Characters
import Upkeep.Proofs.Checksums
import Upkeep.Proofs.Chronicle
import Upkeep.Proofs.Commands
import Upkeep.Proofs.Completion
import Upkeep.Proofs.Convergence
import Upkeep.Proofs.Copying
import Upkeep.Proofs.Credentials
import Upkeep.Proofs.Deliveries
import Upkeep.Proofs.Depth
import Upkeep.Proofs.Destinations
import Upkeep.Proofs.Digests
import Upkeep.Proofs.Diligence
import Upkeep.Proofs.Draining
import Upkeep.Proofs.Fields
import Upkeep.Proofs.Fleets
import Upkeep.Proofs.HclItems
import Upkeep.Proofs.HclText
import Upkeep.Proofs.Holdings
import Upkeep.Proofs.Homes
import Upkeep.Proofs.Inquiries
import Upkeep.Proofs.Interviews
import Upkeep.Proofs.Invocations
import Upkeep.Proofs.JsonText
import Upkeep.Proofs.Labels
import Upkeep.Proofs.Loading
import Upkeep.Proofs.Messages
import Upkeep.Proofs.Names
import Upkeep.Proofs.Order
import Upkeep.Proofs.Paths
import Upkeep.Proofs.Places
import Upkeep.Proofs.Presence
import Upkeep.Proofs.Quoting
import Upkeep.Proofs.Raises
import Upkeep.Proofs.Record
import Upkeep.Proofs.Recording
import Upkeep.Proofs.Redaction
import Upkeep.Proofs.Rendering
import Upkeep.Proofs.RoundTrip
import Upkeep.Proofs.Secrecy
import Upkeep.Proofs.Separation
import Upkeep.Proofs.Settled
import Upkeep.Proofs.Shapes
import Upkeep.Proofs.Singles
import Upkeep.Proofs.Tokens
import Upkeep.Proofs.Tour
import Upkeep.Proofs.Verdicts
import Upkeep.Proofs.Violations
import Upkeep.Proofs.Visits
import Upkeep.Proofs.WellFormed
import Upkeep.Proofs.Within
import Upkeep.Proofs.Written
import Upkeep.Remote.Challenges
import Upkeep.Remote.Command
import Upkeep.Remote.Destination
import Upkeep.Remote.Drain
import Upkeep.Remote.Host
import Upkeep.Remote.HostKey
import Upkeep.Remote.Login
import Upkeep.Run.Backend
import Upkeep.Run.Check
import Upkeep.Run.Evaluate
import Upkeep.Run.Event
import Upkeep.Run.Machines
import Upkeep.Run.Progress
import Upkeep.Run.Site
import Upkeep.Shell.Quoting
import Upkeep.Shell.Shown
import Upkeep.Spec.Decode
import Upkeep.Spec.Error
import Upkeep.Spec.Format
import Upkeep.Spec.Load
import Upkeep.Target.Answer
import Upkeep.Target.Basic
import Upkeep.Target.Local
import Upkeep.Target.Memory
import Upkeep.Target.Op
import Upkeep.Text.Blank
import Upkeep.Text.Identifier
import Upkeep.Text.Occurrence
import Upkeep.Text.Quoted
import Upkeep.Text.Unprintable
import Upkeep.Toml.Reader
import Upkeep.Toml.Scalar
import Upkeep.Toml.Text
import Upkeep.Toml.Tree
