import RemoteConsole.Command.Executor
import RemoteConsole.Command.Line
import RemoteConsole.Command.Options
import RemoteConsole.Command.Route
import RemoteConsole.Command.Status
import RemoteConsole.Command.Table
import RemoteConsole.Decimal.Binary64
import RemoteConsole.Decimal.Shortest
import RemoteConsole.Digest.Sha256
import RemoteConsole.Endpoint.Access
import RemoteConsole.Endpoint.Answer
import RemoteConsole.Endpoint.Commands
import RemoteConsole.Endpoint.Config
import RemoteConsole.Endpoint.Responder
import RemoteConsole.Endpoint.Router
import RemoteConsole.Entries
import RemoteConsole.Http.MediaType
import RemoteConsole.Http.Target
import RemoteConsole.Json.Basic
import RemoteConsole.Json.Document
import RemoteConsole.Json.Numeral
import RemoteConsole.Json.Reader
import RemoteConsole.Main
import RemoteConsole.Net.Address
import RemoteConsole.Net.Url
import RemoteConsole.Program.App
import RemoteConsole.Program.Arguments
import RemoteConsole.Program.Run
import RemoteConsole.Proofs.Command.AnyUse
import RemoteConsole.Proofs.Command.Containment
import RemoteConsole.Proofs.Command.Decisive
import RemoteConsole.Proofs.Command.Dispatch
import RemoteConsole.Proofs.Command.Forwarded
import RemoteConsole.Proofs.Command.Invocation
import RemoteConsole.Proofs.Command.OptionLetters
import RemoteConsole.Proofs.Command.Routing
import RemoteConsole.Proofs.Command.Spelling
import RemoteConsole.Proofs.Command.Verdict
import RemoteConsole.Proofs.Decimal.Shortest
import RemoteConsole.Proofs.Endpoint.Access
import RemoteConsole.Proofs.Endpoint.Agreement
import RemoteConsole.Proofs.Endpoint.Binding
import RemoteConsole.Proofs.Endpoint.Exchange
import RemoteConsole.Proofs.Endpoint.Login
import RemoteConsole.Proofs.Endpoint.Protection
import RemoteConsole.Proofs.Endpoint.Reply
import RemoteConsole.Proofs.Endpoint.Running
import RemoteConsole.Proofs.Endpoint.Secrecy
import RemoteConsole.Proofs.Endpoint.Session
import RemoteConsole.Proofs.Json.Fields
import RemoteConsole.Proofs.Json.Kept
import RemoteConsole.Proofs.Json.Numeral
import RemoteConsole.Proofs.Json.Printed
import RemoteConsole.Proofs.Json.Tokens
import RemoteConsole.Proofs.Line.Collapse
import RemoteConsole.Proofs.Line.Conservation
import RemoteConsole.Proofs.Line.Forwarding
import RemoteConsole.Proofs.Line.Joined
import RemoteConsole.Proofs.Line.Layout
import RemoteConsole.Proofs.Line.Pair
import RemoteConsole.Proofs.Line.Plain
import RemoteConsole.Proofs.Net.Address
import RemoteConsole.Proofs.Rpc.Credential
import RemoteConsole.Proofs.Rpc.Described
import RemoteConsole.Proofs.Rpc.Discovery
import RemoteConsole.Proofs.Rpc.Envelope
import RemoteConsole.Proofs.Rpc.Forms
import RemoteConsole.Proofs.Rpc.Numbering
import RemoteConsole.Proofs.Rpc.Operation
import RemoteConsole.Proofs.Rpc.Replies
import RemoteConsole.Proofs.Rpc.Session
import RemoteConsole.Proofs.Settings.Layers
import RemoteConsole.Proofs.Terminal.Guarded
import RemoteConsole.Proofs.Terminal.Help
import RemoteConsole.Proofs.Terminal.Orderly
import RemoteConsole.Proofs.Terminal.Recorded
import RemoteConsole.Proofs.Terminal.Turns
import RemoteConsole.Rpc.Description
import RemoteConsole.Rpc.Link
import RemoteConsole.Rpc.Peer
import RemoteConsole.Rpc.Request
import RemoteConsole.Rpc.Response
import RemoteConsole.Scripted.Command
import RemoteConsole.Scripted.Peer
import RemoteConsole.Settings.Discovery
import RemoteConsole.Settings.Reading
import RemoteConsole.Settings.Sections
import RemoteConsole.Terminal.Basic
import RemoteConsole.Terminal.Commands
import RemoteConsole.Terminal.History
import RemoteConsole.Terminal.Session
import RemoteConsole.Text.Blank
import RemoteConsole.Text.Quoted
import RemoteConsole.Text.Scan
import RemoteConsole.Text.Uppercase
import RemoteConsole.Toml.Basic
import RemoteConsole.Toml.Document
import RemoteConsole.Toml.Number
import RemoteConsole.Toml.Text
