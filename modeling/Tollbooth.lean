import Tollbooth.Amount
import Tollbooth.Bytes
import Tollbooth.Chain.Address
import Tollbooth.Chain.Id
import Tollbooth.Chain.Network
import Tollbooth.CommandLine.Arguments
import Tollbooth.CommandLine.EnvFile
import Tollbooth.CommandLine.Help
import Tollbooth.CommandLine.Program
import Tollbooth.Config
import Tollbooth.Curve.Ecdsa
import Tollbooth.Curve.Secp256k1
import Tollbooth.Delivery
import Tollbooth.Dialogue
import Tollbooth.Duration
import Tollbooth.Environment
import Tollbooth.Exact.Authorization
import Tollbooth.Exact.Client
import Tollbooth.Exact.Digest
import Tollbooth.Exact.Payload
import Tollbooth.Exact.Resolver
import Tollbooth.Exact.Rpc
import Tollbooth.Exact.Signer
import Tollbooth.Exact.TypedData
import Tollbooth.Facilitator.Cache
import Tollbooth.Facilitator.Client
import Tollbooth.Facilitator.Credentials
import Tollbooth.Facilitator.Error
import Tollbooth.Facilitator.Family
import Tollbooth.Facilitator.Reply
import Tollbooth.Facilitator.Request
import Tollbooth.Files
import Tollbooth.Hash.Keccak
import Tollbooth.Hash.Sha256
import Tollbooth.Http.Content
import Tollbooth.Http.MediaType
import Tollbooth.Http.Message
import Tollbooth.Http.Proxy
import Tollbooth.Http.Redirect
import Tollbooth.Http.Status
import Tollbooth.Http.Url
import Tollbooth.Http.Url.Domain
import Tollbooth.Http.Url.Domain.Table
import Tollbooth.Http.Url.Host
import Tollbooth.Http.Url.Path
import Tollbooth.Http.Url.Percent
import Tollbooth.Http.Url.Punycode
import Tollbooth.Http.Url.Reference
import Tollbooth.Http.Wire
import Tollbooth.Json.Doc
import Tollbooth.Json.Grammar
import Tollbooth.Json.Number
import Tollbooth.Json.Octets
import Tollbooth.Json.Reader
import Tollbooth.Json.Record
import Tollbooth.Json.Scan
import Tollbooth.Json.StringBody
import Tollbooth.Json.Token
import Tollbooth.Json.Value
import Tollbooth.Json.Verbatim
import Tollbooth.Json.Write
import Tollbooth.Main
import Tollbooth.Number.Binary64
import Tollbooth.Number.Shortest
import Tollbooth.Number.Word
import Tollbooth.Octets
import Tollbooth.Payment.Candidate
import Tollbooth.Payment.Error
import Tollbooth.Payment.Retry
import Tollbooth.Proofs.Chain.Address
import Tollbooth.Proofs.Chain.Forms
import Tollbooth.Proofs.Chain.Id
import Tollbooth.Proofs.Chain.Network
import Tollbooth.Proofs.Config.Credentials
import Tollbooth.Proofs.Config.Read
import Tollbooth.Proofs.Config.Reference
import Tollbooth.Proofs.Config.Resolver
import Tollbooth.Proofs.Dialogue.Live
import Tollbooth.Proofs.Dialogue.Run
import Tollbooth.Proofs.Exact.Authorization
import Tollbooth.Proofs.Exact.Binding
import Tollbooth.Proofs.Exact.Client
import Tollbooth.Proofs.Exact.Making
import Tollbooth.Proofs.Exact.Names
import Tollbooth.Proofs.Exact.Numbers
import Tollbooth.Proofs.Exact.Offers
import Tollbooth.Proofs.Exact.Payload
import Tollbooth.Proofs.Exact.Resolution
import Tollbooth.Proofs.Exact.Resolver
import Tollbooth.Proofs.Exact.Routing
import Tollbooth.Proofs.Exact.Signing
import Tollbooth.Proofs.Exact.Spelling
import Tollbooth.Proofs.Exact.Terms
import Tollbooth.Proofs.Facilitator.Call
import Tollbooth.Proofs.Facilitator.Extra
import Tollbooth.Proofs.Facilitator.Family
import Tollbooth.Proofs.Facilitator.Forwarding
import Tollbooth.Proofs.Facilitator.Headers
import Tollbooth.Proofs.Facilitator.Inquiry
import Tollbooth.Proofs.Facilitator.Reason
import Tollbooth.Proofs.Facilitator.Request
import Tollbooth.Proofs.Facilitator.Settlement
import Tollbooth.Proofs.Facilitator.Signature
import Tollbooth.Proofs.Hash.Collision
import Tollbooth.Proofs.Http.Headers
import Tollbooth.Proofs.Json.Container
import Tollbooth.Proofs.Json.Number
import Tollbooth.Proofs.Json.Parts
import Tollbooth.Proofs.Json.Record
import Tollbooth.Proofs.Json.Scan
import Tollbooth.Proofs.Json.Sound
import Tollbooth.Proofs.Json.Spells
import Tollbooth.Proofs.Json.StringBody
import Tollbooth.Proofs.Json.Token
import Tollbooth.Proofs.Json.Value
import Tollbooth.Proofs.Json.Write
import Tollbooth.Proofs.Payment.Retry
import Tollbooth.Proofs.Payment.Selection
import Tollbooth.Proofs.Protocol.Detection
import Tollbooth.Proofs.Protocol.RoundTrip
import Tollbooth.Proofs.Protocol.Spells
import Tollbooth.Proofs.Protocol.Supported
import Tollbooth.Proofs.Text.Base64
import Tollbooth.Proofs.Text.Decimal
import Tollbooth.Proofs.Text.Hex
import Tollbooth.Proofs.Text.Utf8
import Tollbooth.Proofs.Timestamp.Saturation
import Tollbooth.Protocol.Demand
import Tollbooth.Protocol.Outcome
import Tollbooth.Protocol.Supported
import Tollbooth.Protocol.Version
import Tollbooth.Setting
import Tollbooth.Text.Alphanumeric
import Tollbooth.Text.Base64
import Tollbooth.Text.Bidi
import Tollbooth.Text.Blank
import Tollbooth.Text.Charset
import Tollbooth.Text.CodePage
import Tollbooth.Text.CodePoints
import Tollbooth.Text.Decimal
import Tollbooth.Text.Decoding.BigFive
import Tollbooth.Text.Decoding.BigFive.Table
import Tollbooth.Text.Decoding.Guobiao
import Tollbooth.Text.Decoding.Guobiao.Table
import Tollbooth.Text.Decoding.Index
import Tollbooth.Text.Decoding.Japanese
import Tollbooth.Text.Decoding.Japanese.Table
import Tollbooth.Text.Decoding.Korean
import Tollbooth.Text.Decoding.Korean.Table
import Tollbooth.Text.Decoding.Pair
import Tollbooth.Text.Decoding.Utf16
import Tollbooth.Text.Hex
import Tollbooth.Text.Joining
import Tollbooth.Text.Lossy
import Tollbooth.Text.Mark
import Tollbooth.Text.Normal
import Tollbooth.Text.Normal.Table
import Tollbooth.Text.Quoted
import Tollbooth.Text.Split
import Tollbooth.Text.Unprintable
import Tollbooth.Timestamp
