import LedgerAgent.Amount
import LedgerAgent.Client
import LedgerAgent.CommandLine
import LedgerAgent.Config
import LedgerAgent.Decimal.Binary64
import LedgerAgent.Decimal.Shortest
import LedgerAgent.Entity
import LedgerAgent.FileTree
import LedgerAgent.Instruction
import LedgerAgent.Json.Basic
import LedgerAgent.Json.Decode
import LedgerAgent.Json.Printer
import LedgerAgent.Json.Reader
import LedgerAgent.Json.Reading
import LedgerAgent.Key.Basic
import LedgerAgent.Key.Curve
import LedgerAgent.Key.Der
import LedgerAgent.Key.Pem
import LedgerAgent.Key.Sha256
import LedgerAgent.Kit.Basic
import LedgerAgent.Kit.Query
import LedgerAgent.Main
import LedgerAgent.MirrorNode.Basic
import LedgerAgent.MirrorNode.Entry
import LedgerAgent.MirrorNode.Query
import LedgerAgent.Network
import LedgerAgent.Operation
import LedgerAgent.Outcome
import LedgerAgent.Proofs.Numeral
import LedgerAgent.Session
import LedgerAgent.Submission
import LedgerAgent.Text.Base64
import LedgerAgent.Text.Blank
import LedgerAgent.Text.Bytes
import LedgerAgent.Text.CodeTable
import LedgerAgent.Text.Composition
import LedgerAgent.Text.Direction
import LedgerAgent.Text.Hex
import LedgerAgent.Text.Joining
import LedgerAgent.Text.Lowercase
import LedgerAgent.Text.Mark
import LedgerAgent.Text.Numeral
import LedgerAgent.Text.Quoted
import LedgerAgent.Text.Split
import LedgerAgent.Timestamp
import LedgerAgent.Tool.Basic
import LedgerAgent.Tool.Description
import LedgerAgent.Tool.Parameters
import LedgerAgent.Tool.Registry
import LedgerAgent.Tool.Request
import LedgerAgent.Transaction.Basic
import LedgerAgent.Transaction.Body
import LedgerAgent.Url.Basic
import LedgerAgent.Url.Domain
import LedgerAgent.Url.DomainTable
import LedgerAgent.Url.Encoding
import LedgerAgent.Url.Host
import LedgerAgent.Url.Parser
import LedgerAgent.Url.Path
import LedgerAgent.Url.Punycode
import LedgerAgent.Proofs.Identifier
import LedgerAgent.Proofs.Json.RoundTrip
import LedgerAgent.Proofs.KeySpelling
import LedgerAgent.Proofs.Signature
import LedgerAgent.Proofs.Json.Decoding
import LedgerAgent.Proofs.Transaction.RoundTrip
import LedgerAgent.Proofs.Transaction.Lifecycle
import LedgerAgent.Proofs.Transaction.SignedBytes
import LedgerAgent.Proofs.Session
import LedgerAgent.Proofs.Text.Base64
import LedgerAgent.Proofs.Submission
import LedgerAgent.Proofs.Kit.Perform
import LedgerAgent.Proofs.Amount
import LedgerAgent.Proofs.Amount.Display
import LedgerAgent.Proofs.Amount.Judgement
import LedgerAgent.Proofs.Kit.Actor
import LedgerAgent.Proofs.Tool.Submission
import LedgerAgent.Proofs.Json.Canonical
import LedgerAgent.Proofs.Tool.Parameters
import LedgerAgent.Proofs.Tool.Payment
import LedgerAgent.Proofs.Tool.Production
import LedgerAgent.Proofs.Tool.Conveyance
import LedgerAgent.Proofs.Decimal.Rounding
import LedgerAgent.Proofs.Decimal.Shortest
import LedgerAgent.Proofs.Decimal.Positional
import LedgerAgent.Proofs.Json.Grammar
import LedgerAgent.Proofs.Json.Number
import LedgerAgent.Proofs.Json.Written
import LedgerAgent.Proofs.Tool.WrittenAmount
import LedgerAgent.Proofs.Json.Rendering
import LedgerAgent.Proofs.Tool.Answer
import LedgerAgent.Proofs.MirrorNode.Listing
import LedgerAgent.Proofs.MirrorNode.Reply
import LedgerAgent.Proofs.Url.Domain
import LedgerAgent.Proofs.Url.Address
import LedgerAgent.Proofs.Url.Host
import LedgerAgent.Proofs.Url.Authority
import LedgerAgent.Proofs.Url.Origin
import LedgerAgent.Proofs.MirrorNode.Origin
import LedgerAgent.Proofs.Transaction.Freezing
import LedgerAgent.Proofs.Client
import LedgerAgent.Proofs.Kit.Identity
import LedgerAgent.Proofs.Tool.Content
import LedgerAgent.Proofs.Tool.Display
import LedgerAgent.Proofs.Transaction.Readiness
import LedgerAgent.Proofs.Movement
import LedgerAgent.Proofs.Execution
import LedgerAgent.Proofs.Relay
import LedgerAgent.Proofs.Json.Record
import LedgerAgent.Proofs.Tool.Traffic
import LedgerAgent.Proofs.Tool.Airdrop
import LedgerAgent.Proofs.Unsigned
import LedgerAgent.Proofs.Json.Declaration
import LedgerAgent.Proofs.Tool.Declared
import LedgerAgent.Proofs.Tool.Meaning
import LedgerAgent.Proofs.Tool.Suiting
import LedgerAgent.Proofs.Tool.Refusal
import LedgerAgent.Proofs.Tool.Unparsable
import LedgerAgent.Proofs.Timestamp.Calendar
import LedgerAgent.Proofs.Timestamp.Spelling
import LedgerAgent.Proofs.Timestamp.Order
import LedgerAgent.Proofs.Url.Query
import LedgerAgent.Proofs.Url.Path
import LedgerAgent.Proofs.Url.Onward
import LedgerAgent.Proofs.MirrorNode.Endpoint
import LedgerAgent.Proofs.MirrorNode.Revisit
import LedgerAgent.Proofs.Numeral.Spelling
import LedgerAgent.Proofs.Identifier.Spelling
import LedgerAgent.Proofs.Identifier.Transaction
import LedgerAgent.Proofs.Identifier.Canonical
import LedgerAgent.Proofs.Kit.Balances
import LedgerAgent.Proofs.KeySpelling.Variants
import LedgerAgent.Proofs.Outcome
import LedgerAgent.Proofs.Config.Environment
import LedgerAgent.Proofs.Config
