import Entitlement.Admission
import Entitlement.Auth.Authenticator
import Entitlement.Auth.KeyPair
import Entitlement.Auth.Nonce
import Entitlement.Auth.SignedRequest
import Entitlement.Authority
import Entitlement.Cache
import Entitlement.CallContext
import Entitlement.CheckKey
import Entitlement.Client
import Entitlement.Client.Call
import Entitlement.Client.Event
import Entitlement.Client.Heartbeat
import Entitlement.Client.Rehearsal
import Entitlement.ClientError
import Entitlement.Codec.Base64
import Entitlement.Codec.Hex
import Entitlement.Config
import Entitlement.Config.Error
import Entitlement.Config.File
import Entitlement.Config.Layer
import Entitlement.Config.Load
import Entitlement.Config.Setting
import Entitlement.Digest.Sha256
import Entitlement.Digest.Sha512
import Entitlement.Ed25519.Curve
import Entitlement.Ed25519.Field
import Entitlement.Ed25519.Signature
import Entitlement.FailurePolicy
import Entitlement.Json.Number
import Entitlement.Json.Record
import Entitlement.Json.Skip
import Entitlement.Json.Text
import Entitlement.Json.Value
import Entitlement.Json.Writer
import Entitlement.Ledger
import Entitlement.Ledger.Event
import Entitlement.LimitError
import Entitlement.Message
import Entitlement.Number.Binary64
import Entitlement.Number.Decimal
import Entitlement.Number.Digit
import Entitlement.Number.Shortest
import Entitlement.Proofs.Client.Entry
import Entitlement.Proofs.Client.History
import Entitlement.Providers
import Entitlement.RateWindow
import Entitlement.Saturating
import Entitlement.Snapshot
import Entitlement.Table
import Entitlement.Text.Blank
import Entitlement.Text.Cased
import Entitlement.Text.Extender
import Entitlement.Text.Lowercase
import Entitlement.Text.Quoted
import Entitlement.Text.Ranges
import Entitlement.Text.Unprintable
import Entitlement.Text.Utf8
import Entitlement.Time
import Entitlement.Toml
import Entitlement.Toml.Scalar
import Entitlement.Toml.Text
import Entitlement.Toml.Tree
import Entitlement.Url
import Entitlement.Url.Escape
import Entitlement.Url.Host
import Entitlement.Url.Path
import Entitlement.Yaml
import Entitlement.Yaml.Cursor
import Entitlement.Yaml.Document
import Entitlement.Yaml.Layout
import Entitlement.Yaml.Node
import Entitlement.Yaml.Property
import Entitlement.Yaml.Scalar
import Entitlement.Yaml.Token
import Entitlement.Proofs.Client.Knowledge
import Entitlement.Proofs.Client.Flight
import Entitlement.Proofs.Client.SingleFlight
import Entitlement.Proofs.Client.Refresh
import Entitlement.Proofs.Client.Reports
import Entitlement.Proofs.Client.Usage
import Entitlement.Proofs.Client.Waiting
import Entitlement.Proofs.Client.Alike
import Entitlement.Proofs.Client.Cancellation
import Entitlement.Proofs.Client.Closing
import Entitlement.Proofs.Client.Slots
import Entitlement.Proofs.Client.Invalidation
import Entitlement.Proofs.Cache
import Entitlement.Proofs.Cache.History
import Entitlement.Proofs.Client.Calls
import Entitlement.Proofs.Client.Provenance
import Entitlement.Proofs.Client.Decisions
import Entitlement.Proofs.Ledger.Accounting
import Entitlement.Proofs.Ledger.Limit
import Entitlement.Proofs.RateWindow
import Entitlement.Proofs.Table
import Entitlement.Proofs.Client.Attempts
import Entitlement.Proofs.Text.Utf8
import Entitlement.Proofs.Number.Decimal
import Entitlement.Proofs.Codec.Hex
import Entitlement.Proofs.Codec.Base64
import Entitlement.Proofs.Outcome
import Entitlement.Proofs.Url.Escape
import Entitlement.Proofs.Url.Path
import Entitlement.Proofs.Url.Simple
import Entitlement.Proofs.Url.Extension
import Entitlement.Proofs.Url.Place
import Entitlement.Proofs.Authority
import Entitlement.Proofs.CheckAddress
import Entitlement.Proofs.Auth.CanonicalText
import Entitlement.Proofs.Auth.Signing
import Entitlement.Proofs.Config.Literal
import Entitlement.Proofs.Config.Layers
import Entitlement.Proofs.Number.Binary64
import Entitlement.Proofs.Json.Text
import Entitlement.Proofs.Json.Number
import Entitlement.Proofs.Json.Record
import Entitlement.Proofs.Message
import Entitlement.Proofs.Url.Directory
import Entitlement.Proofs.Url.BlankEnd
import Entitlement.Proofs.Url.Extensible
import Entitlement.Proofs.Endpoint
import Entitlement.Proofs.Numbering
import Entitlement.Proofs.Ledger.Thinning
import Entitlement.Proofs.Client.Labels
import Entitlement.Proofs.Client.Renumbering
import Entitlement.Proofs.Client.Thinning
import Entitlement.Proofs.Client.ThinnedEvents
import Entitlement.Proofs.Client.Separation
import Entitlement.Proofs.CheckReply
import Entitlement.Proofs.Client.Verdict
import Entitlement.Proofs.Client.Heartbeats
import Entitlement.Proofs.KeySegment
import Entitlement.Proofs.Auth.Headers
import Entitlement.Proofs.Providers
import Entitlement.Proofs.Config.Fields
import Entitlement.Proofs.Config.Merge
import Entitlement.Proofs.Json.Grammar
import Entitlement.Proofs.Json.Skip
import Entitlement.Proofs.Json.Steady
import Entitlement.Proofs.Json.Members
import Entitlement.Proofs.Json.Rearrange
import Entitlement.Proofs.Json.Parts
import Entitlement.Proofs.Json.StrictSkip
import Entitlement.Proofs.Json.StrictRecord
import Entitlement.Proofs.ReplyMembers
import Entitlement.Proofs.HttpReply
import Entitlement.Proofs.Admission
import Entitlement.Proofs.Text.Blank
import Entitlement.Proofs.Auth.Secrets
import Entitlement.Proofs.Client.Replies
