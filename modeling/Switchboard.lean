import Switchboard.BuiltIn
import Switchboard.CommandLine
import Switchboard.Credential.Armor
import Switchboard.Credential.Certificate
import Switchboard.Credential.Curve
import Switchboard.Credential.Digest
import Switchboard.Credential.Edwards
import Switchboard.Credential.Element
import Switchboard.Credential.Pair
import Switchboard.Credential.PrivateKey
import Switchboard.Credential.PublicKey
import Switchboard.Credential.Residue
import Switchboard.Decimal.Binary64
import Switchboard.Decimal.Shortest
import Switchboard.Declaration.Check
import Switchboard.Declaration.Identity
import Switchboard.Declaration.Operation
import Switchboard.Declaration.Route
import Switchboard.Event
import Switchboard.Files
import Switchboard.Handler.Error
import Switchboard.Handler.Program
import Switchboard.Http.Header
import Switchboard.Http.Message
import Switchboard.Http.Method
import Switchboard.Http.RequestLine
import Switchboard.Http.Status
import Switchboard.Http.Uri
import Switchboard.Http.Version
import Switchboard.Json.Basic
import Switchboard.Json.Failure
import Switchboard.Json.Lexeme
import Switchboard.Json.Printer
import Switchboard.Json.Reader
import Switchboard.Json.Stored
import Switchboard.Main
import Switchboard.Net.Address
import Switchboard.Param.Basic
import Switchboard.Param.Reader
import Switchboard.Param.Value
import Switchboard.Path.Clean
import Switchboard.Path.Prefix
import Switchboard.Path.Template
import Switchboard.Pool
import Switchboard.Proofs.Declaration.Agreement
import Switchboard.Proofs.Declaration.Brackets
import Switchboard.Proofs.Declaration.Normal
import Switchboard.Proofs.Declaration.Rebuilding
import Switchboard.Proofs.Dispatch.Accounts
import Switchboard.Proofs.Dispatch.Anonymous
import Switchboard.Proofs.Dispatch.BodyGate
import Switchboard.Proofs.Dispatch.Bridge
import Switchboard.Proofs.Dispatch.Failure
import Switchboard.Proofs.Dispatch.Introspection
import Switchboard.Proofs.Dispatch.Isolation
import Switchboard.Proofs.Dispatch.Lending
import Switchboard.Proofs.Dispatch.Onion
import Switchboard.Proofs.Dispatch.Panic
import Switchboard.Proofs.Dispatch.QueryCache
import Switchboard.Proofs.Dispatch.Task
import Switchboard.Proofs.Http.DeclaredLength
import Switchboard.Proofs.Http.Members
import Switchboard.Proofs.Json.Reading
import Switchboard.Proofs.Json.RoundTrip
import Switchboard.Proofs.Json.Words
import Switchboard.Proofs.Param.RoundTrip
import Switchboard.Proofs.Path.Cleaning
import Switchboard.Proofs.Path.Climbing
import Switchboard.Proofs.Path.Filling
import Switchboard.Proofs.Path.Joining
import Switchboard.Proofs.Path.Marker
import Switchboard.Proofs.Path.Query
import Switchboard.Proofs.Path.Spelling
import Switchboard.Proofs.Path.Survival
import Switchboard.Proofs.Pool.Counters
import Switchboard.Proofs.Pool.Ownership
import Switchboard.Proofs.Pool.Reuse
import Switchboard.Proofs.Pool.Sound
import Switchboard.Proofs.Registry.Callbacks
import Switchboard.Proofs.Registry.History
import Switchboard.Proofs.Registry.Permanence
import Switchboard.Proofs.Registry.Permutation
import Switchboard.Proofs.Registry.Representation
import Switchboard.Proofs.Registry.Separation
import Switchboard.Proofs.Response.Changes
import Switchboard.Proofs.Response.Commitment
import Switchboard.Proofs.Response.Size
import Switchboard.Proofs.Routing.Allow
import Switchboard.Proofs.Routing.Declaring
import Switchboard.Proofs.Routing.Identity
import Switchboard.Proofs.Routing.Mounting
import Switchboard.Proofs.Routing.Reference
import Switchboard.Proofs.Routing.Wrapping
import Switchboard.Proofs.Text.Numeral
import Switchboard.Proofs.Text.Order
import Switchboard.Proofs.Text.Stripping
import Switchboard.Registry.Basic
import Switchboard.Router
import Switchboard.Server.Cycle
import Switchboard.Server.Dispatch
import Switchboard.Server.Gateway
import Switchboard.Server.Identifier
import Switchboard.Server.Meters
import Switchboard.Server.Startup
import Switchboard.Server.World
import Switchboard.Settings.Basic
import Switchboard.Settings.Check
import Switchboard.Settings.Decode
import Switchboard.Text.Base64
import Switchboard.Text.Blank
import Switchboard.Text.Case
import Switchboard.Text.Form
import Switchboard.Text.Hex
import Switchboard.Text.Number
import Switchboard.Text.Order
import Switchboard.Text.Quoted
import Switchboard.Text.Split
import Switchboard.Text.Unprintable
import Switchboard.Text.Utf8
import Switchboard.Toml.Document
import Switchboard.Toml.Item
import Switchboard.Toml.Word
import Switchboard.Wrapper.Pools
import Switchboard.Wrapper.Request
import Switchboard.Wrapper.Response
