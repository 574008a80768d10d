import HexSigner.Session
import HexSigner.Number.Binary64
import HexSigner.Number.Shortest
import HexSigner.Document.Mismatch
import HexSigner.Json.Fault
import HexSigner.Json.Literal
import HexSigner.Json.Numeral
import HexSigner.Json.Skip
import HexSigner.Json.Reader
import HexSigner.Key.Json
import HexSigner.Settings.Json
import HexSigner.Toml.Lexical
import HexSigner.Toml.Text
import HexSigner.Toml.Scalar
import HexSigner.Toml.Table
import HexSigner.Toml.Value
import HexSigner.Settings.Toml
import HexSigner.Log.Directive
import HexSigner.Log.Filter
import HexSigner.Log.Line
import HexSigner.Command.Options
import HexSigner.Command.Run
import HexSigner.Main
import HexSigner.Proofs.Repeated
import HexSigner.Proofs.Octets
import HexSigner.Proofs.Text.Hex
import HexSigner.Proofs.Text.LetterCase
import HexSigner.Proofs.Curve.Primes
import HexSigner.Proofs.Curve.Edwards
import HexSigner.Proofs.Curve.Field
import HexSigner.Proofs.Curve.Group
import HexSigner.Proofs.Curve.Encoding
import HexSigner.Proofs.Der.Decoder
import HexSigner.Proofs.Der.Element
import HexSigner.Proofs.Der.Field
import HexSigner.Proofs.Key.Algorithm
import HexSigner.Proofs.Key.PublicDocument
import HexSigner.Proofs.Key.PrivateDocument
import HexSigner.Proofs.Key.Pair
import HexSigner.Proofs.Ed25519
import HexSigner.Proofs.Key.PublicText
import HexSigner.Proofs.Signer
import HexSigner.Proofs.Key.PrivateText
import HexSigner.Proofs.Failure
import HexSigner.Proofs.Session
import HexSigner.Proofs.Signing
import HexSigner.Proofs.Verification
import HexSigner.Proofs.Key.Kinds
import HexSigner.Proofs.Key.Secrecy
import HexSigner.Proofs.Session.Draws
import HexSigner.Proofs.Json.Written
import HexSigner.Proofs.Log.Fatal
import HexSigner.Proofs.Command.Answer
import HexSigner.Proofs.Command.Outcome
import HexSigner.Proofs.Command.Logging
import HexSigner.Proofs.Command.Arguments
import HexSigner.Proofs.Key.Export
import HexSigner.Proofs.Document.Tree
import HexSigner.Proofs.Document.Writing
import HexSigner.Proofs.Json.Forms
import HexSigner.Proofs.Json.Reader
import HexSigner.Proofs.Number.Binary64
import HexSigner.Proofs.Toml.Extract
import HexSigner.Proofs.Toml.Statements
import HexSigner.Proofs.Toml.Grammar
import HexSigner.Proofs.Toml.Words
import HexSigner.Proofs.Toml.Numbers
import HexSigner.Proofs.Toml.Insertion
import HexSigner.Proofs.Toml.Draft
import HexSigner.Proofs.Toml.Reader
import HexSigner.Proofs.Toml.Forms
import HexSigner.Proofs.Settings.Documents
import HexSigner.Proofs.Key.PrefixFree
import HexSigner.Proofs.Der.Locality
import HexSigner.Proofs.Key.BareSeed
import HexSigner.Proofs.Signer.LetterCase
import HexSigner.Proofs.Signer.Stages
import HexSigner.Proofs.Text.Quoted
import HexSigner.Proofs.Text.Codec
import HexSigner.Proofs.Json.Strings
import HexSigner.Proofs.Key.Json
import HexSigner.Proofs.Command.Flags
import HexSigner.Proofs.Command.Unreadable
import HexSigner.Proofs.Signer.NeutralKey
import HexSigner.Proofs.Json.Unique
import HexSigner.Proofs.Json.Compact
import HexSigner.Proofs.Settings.RoundTrip
import HexSigner.Proofs.Log.Lines
import HexSigner.Proofs.Command.VerifyLog
