import Greeter.Address.Endpoint
import Greeter.Address.Ipv4
import Greeter.Address.Ipv6
import Greeter.Bytes
import Greeter.Clock
import Greeter.Config
import Greeter.Error.IoError
import Greeter.Error.Kind
import Greeter.Error.ServerError
import Greeter.Error.SystemCode
import Greeter.Http.Request
import Greeter.Http.Response
import Greeter.Log.Directive
import Greeter.Log.Event
import Greeter.Log.Filter
import Greeter.Log.Level
import Greeter.Log.Line
import Greeter.Log.Value
import Greeter.Main
import Greeter.Network.Basic
import Greeter.Network.Fleet
import Greeter.Network.Machine
import Greeter.Numeral
import Greeter.Pattern.CharSet
import Greeter.Pattern.Expr
import Greeter.Pattern.Parser
import Greeter.Pattern.Program
import Greeter.Program
import Greeter.Proofs.Acceptance
import Greeter.Proofs.Accounting
import Greeter.Proofs.Admission
import Greeter.Proofs.Bodies
import Greeter.Proofs.CanonicalHosts
import Greeter.Proofs.CanonicalTargets
import Greeter.Proofs.ChunkedBodies
import Greeter.Proofs.Conduct
import Greeter.Proofs.Conversation
import Greeter.Proofs.Cuts
import Greeter.Proofs.Deeds
import Greeter.Proofs.Enabling
import Greeter.Proofs.EndpointText
import Greeter.Proofs.ErrorText
import Greeter.Proofs.Filtering
import Greeter.Proofs.FirstBytes
import Greeter.Proofs.HostText
import Greeter.Proofs.Independence
import Greeter.Proofs.Launch
import Greeter.Proofs.Limits
import Greeter.Proofs.Listeners
import Greeter.Proofs.Numerals
import Greeter.Proofs.Orders
import Greeter.Proofs.OriginTargets
import Greeter.Proofs.Persistence
import Greeter.Proofs.Pipelines
import Greeter.Proofs.PlainTargets
import Greeter.Proofs.RequestLines
import Greeter.Proofs.RequestText
import Greeter.Proofs.Routes
import Greeter.Proofs.Rules
import Greeter.Proofs.Separators
import Greeter.Proofs.Serving
import Greeter.Proofs.SingleRequests
import Greeter.Proofs.Specificity
import Greeter.Proofs.Startup
import Greeter.Proofs.Steady
import Greeter.Proofs.TargetForms
import Greeter.Proofs.Targets
import Greeter.Proofs.TextBytes
import Greeter.Proofs.WrittenNumbers
import Greeter.Router
import Greeter.Server
import Greeter.Service
import Greeter.Text.Alphabetic
import Greeter.Text.Alphanumeric
import Greeter.Text.GraphemeExtend
import Greeter.Text.Ignorable
import Greeter.Text.Quoted
import Greeter.Text.Ranges
import Greeter.Text.Unprintable
import Greeter.Text.WhiteSpace
import Greeter.Uri.Basic
import Greeter.Uri.Parser
import Greeter.Wire.Body
import Greeter.Wire.Connection
import Greeter.Wire.Exchange
import Greeter.Wire.Framing
import Greeter.Wire.Head
import Greeter.Wire.Progress
import Greeter.Wire.Reply
import Greeter.Wire.Served
