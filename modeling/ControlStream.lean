import ControlStream.Bytes.Base64
import ControlStream.Bytes.Utf8
import ControlStream.CommandLine
import ControlStream.Json.Basic
import ControlStream.Json.Numeral
import ControlStream.Json.Reader
import ControlStream.Json.Writer
import ControlStream.Leaf.CryptoKind
import ControlStream.Leaf.KeyPair
import ControlStream.Leaf.Opaque
import ControlStream.Leaf.Plain
import ControlStream.Leaf.Scalar
import ControlStream.Leaf.Typed
import ControlStream.Log.Filter
import ControlStream.Log.Record
import ControlStream.Main
import ControlStream.Message
import ControlStream.Node.Attachment
import ControlStream.Node.Peer
import ControlStream.Node.State
import ControlStream.Number.Double
import ControlStream.Number.Shortest
import ControlStream.Pattern.Basic
import ControlStream.Pattern.ByteRange
import ControlStream.Pattern.CharSet
import ControlStream.Pattern.Flags
import ControlStream.Pattern.Head
import ControlStream.Pattern.Machine
import ControlStream.Pattern.Normal
import ControlStream.Pattern.Reader
import ControlStream.Pattern.Trail
import ControlStream.Proofs.Base64.Canonical
import ControlStream.Proofs.Base64.Faults
import ControlStream.Proofs.Bytes.LongestText
import ControlStream.Proofs.Bytes.Utf8
import ControlStream.Proofs.Json.Fits
import ControlStream.Proofs.Json.Numerals
import ControlStream.Proofs.Json.OneLine
import ControlStream.Proofs.Json.Padding
import ControlStream.Proofs.Json.RoundTrip
import ControlStream.Proofs.Leaf.FifthCharacter
import ControlStream.Proofs.Leaf.KeyPair
import ControlStream.Proofs.Leaf.Plain
import ControlStream.Proofs.Leaf.Typed
import ControlStream.Proofs.Message.Blame
import ControlStream.Proofs.Node.Canonical
import ControlStream.Proofs.Node.Grammar
import ControlStream.Proofs.Node.RoundTrip
import ControlStream.Proofs.Node.Spelling
import ControlStream.Proofs.Record.RoundTrip
import ControlStream.Proofs.Response.ApiError
import ControlStream.Proofs.Response.Result
import ControlStream.Proofs.Response.RoundTrip
import ControlStream.Proofs.Stream.Account
import ControlStream.Proofs.Stream.AfterShutdown
import ControlStream.Proofs.Stream.Alike
import ControlStream.Proofs.Stream.AnySink
import ControlStream.Proofs.Stream.Blank
import ControlStream.Proofs.Stream.Completed
import ControlStream.Proofs.Stream.Concatenation
import ControlStream.Proofs.Stream.Considered
import ControlStream.Proofs.Stream.FailingReader
import ControlStream.Proofs.Stream.FailingSink
import ControlStream.Proofs.Stream.FirstFault
import ControlStream.Proofs.Stream.Forwarded
import ControlStream.Proofs.Stream.KeepGoing
import ControlStream.Proofs.Stream.Lines
import ControlStream.Proofs.Stream.NodeLogs
import ControlStream.Proofs.Stream.OutputLines
import ControlStream.Proofs.Stream.Padding
import ControlStream.Proofs.Stream.Presentation
import ControlStream.Proofs.Stream.RawText
import ControlStream.Proofs.Stream.ReadBack
import ControlStream.Proofs.Stream.Reliable
import ControlStream.Proofs.Stream.Skipped
import ControlStream.Proofs.Stream.Stops
import ControlStream.Proofs.Stream.TextLines
import ControlStream.Proofs.Text.Decimal
import ControlStream.Proofs.Text.LineBreaks
import ControlStream.Proofs.Text.Offsets
import ControlStream.Proofs.Update.Agreement
import ControlStream.Proofs.Update.Canonical
import ControlStream.Proofs.Update.Grammar
import ControlStream.Proofs.Update.RoundTrip
import ControlStream.Proofs.Update.Spelling
import ControlStream.Proofs.Wire.Agreement
import ControlStream.Proofs.Wire.Blame
import ControlStream.Proofs.Wire.Canonical
import ControlStream.Proofs.Wire.Carries
import ControlStream.Proofs.Wire.Grammar
import ControlStream.Proofs.Wire.Leaf
import ControlStream.Proofs.Wire.Spelling
import ControlStream.Proofs.Wire.Unsigned
import ControlStream.Record.Schema
import ControlStream.Record.Value
import ControlStream.Response.ApiError
import ControlStream.Response.Basic
import ControlStream.Response.PrivateRoute
import ControlStream.Response.Version
import ControlStream.Stream.Config
import ControlStream.Stream.ConfigFile
import ControlStream.Stream.Error
import ControlStream.Stream.Line
import ControlStream.Stream.Run
import ControlStream.Text.Hidden
import ControlStream.Text.Letter
import ControlStream.Text.Offsets
import ControlStream.Text.Quoted
import ControlStream.Text.Scan
import ControlStream.Text.Space
import ControlStream.Text.Terminal
import ControlStream.Toml.Basic
import ControlStream.Toml.Numeral
import ControlStream.Toml.Reader
import ControlStream.Update.App
import ControlStream.Update.Basic
import ControlStream.Update.Describe
import ControlStream.Update.Log
import ControlStream.Update.RouteChange
import ControlStream.Update.ValueChange
import ControlStream.Wire.DecodeError
import ControlStream.Wire.Field
import ControlStream.Wire.Unsigned
import ControlStream.Proofs.Record.Schema
import ControlStream.Proofs.Base64.Blocks
import ControlStream.Proofs.Stream.Session
