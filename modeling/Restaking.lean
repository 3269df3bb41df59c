import Restaking.Abi.Argument
import Restaking.Abi.Decoding
import Restaking.Abi.Encoding
import Restaking.Abi.Type
import Restaking.Address
import Restaking.Bindings
import Restaking.CallContext
import Restaking.Clock
import Restaking.Config
import Restaking.Contract
import Restaking.Decimal.Binary
import Restaking.Decimal.Layout
import Restaking.Decimal.Reader
import Restaking.Decimal.Shortest
import Restaking.Failure
import Restaking.Fault
import Restaking.Keccak
import Restaking.Logging.Application
import Restaking.Logging.Calendar
import Restaking.Logging.Record
import Restaking.Logging.Root
import Restaking.Node.Direct
import Restaking.Node.Endpoint
import Restaking.Node.ErrorAnswer
import Restaking.Node.GatewayLookup
import Restaking.Node.Remote
import Restaking.Node.Script
import Restaking.Proofs.Abi.Accepted
import Restaking.Proofs.Abi.Argument
import Restaking.Proofs.Abi.RoundTrip
import Restaking.Proofs.Abi.Static
import Restaking.Proofs.Abi.Word
import Restaking.Proofs.Address.Checksum
import Restaking.Proofs.Address.Spelling
import Restaking.Proofs.Address.Text
import Restaking.Proofs.Bindings.Build
import Restaking.Proofs.Bindings.Movement
import Restaking.Proofs.Bindings.Steps
import Restaking.Proofs.Bindings.TwoAddresses
import Restaking.Proofs.Bindings.ZeroAddress
import Restaking.Proofs.Config.Deployment
import Restaking.Proofs.Config.Fields
import Restaking.Proofs.Config.Precedence
import Restaking.Proofs.Config.Wiring
import Restaking.Proofs.Context.Lifetime
import Restaking.Proofs.Context.Run
import Restaking.Proofs.Decimal.Grammar
import Restaking.Proofs.Except
import Restaking.Proofs.Logging.Application
import Restaking.Proofs.Logging.Component
import Restaking.Proofs.Logging.Level
import Restaking.Proofs.Node.Returned
import Restaking.Proofs.Node.Wire
import Restaking.Proofs.Reader.Agreement
import Restaking.Proofs.Reader.Calls
import Restaking.Proofs.Reader.Hashes
import Restaking.Proofs.Reader.Independence
import Restaking.Proofs.Reader.Lookup
import Restaking.Proofs.Reader.Movement
import Restaking.Proofs.Reader.Pipeline
import Restaking.Proofs.Reader.Plan
import Restaking.Proofs.Rewards.NormalForm
import Restaking.Proofs.Session.Action
import Restaking.Proofs.Session.Canonical
import Restaking.Proofs.Session.Contexts
import Restaking.Proofs.Text.Upper
import Restaking.Proofs.Value.Layouts
import Restaking.Proofs.Word.Grammar
import Restaking.Proofs.Word.LostDigit
import Restaking.Query
import Restaking.Reader
import Restaking.Rewards.Claim
import Restaking.Rewards.Root
import Restaking.Run
import Restaking.Session
import Restaking.Settings
import Restaking.Settings.EnvFile
import Restaking.Text.Blank
import Restaking.Text.CharSet
import Restaking.Text.Composition
import Restaking.Text.Digit
import Restaking.Text.DomainName
import Restaking.Text.Emoji
import Restaking.Text.Hex
import Restaking.Text.HostChar
import Restaking.Text.HostName
import Restaking.Text.IpAddress
import Restaking.Text.Label
import Restaking.Text.NameChar
import Restaking.Text.Printable
import Restaking.Text.Punycode
import Restaking.Text.Quoted
import Restaking.Text.Upper
import Restaking.Text.Url
import Restaking.Value
import Restaking.Value.Conversion
import Restaking.Value.Display
import Restaking.Value.Field
import Restaking.Word
