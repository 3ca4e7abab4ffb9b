import StreamRequest.Main
import StreamRequest.Object
import StreamRequest.Proofs.Object
import StreamRequest.Record
import StreamRequest.Text.Utf8.RoundTrip
import StreamRequest.Proofs.Text.Ascii
import StreamRequest.Proofs.Text.AsciiCase
import StreamRequest.Proofs.Request.Reading
import StreamRequest.Proofs.Text.Decimal
import StreamRequest.Proofs.Text.CodeText
import StreamRequest.Proofs.Command.Draft
import StreamRequest.Proofs.Record
import StreamRequest.Proofs.Request.Name
import StreamRequest.Proofs.Request.RoundTrip
import StreamRequest.Proofs.Request.SameRequest
import StreamRequest.Proofs.Value.UniqueWire
import StreamRequest.Proofs.RequestError.OneLine
import StreamRequest.Proofs.Text.Utf8Fault
import StreamRequest.Proofs.Text.Spelling
import StreamRequest.Proofs.Text.HexSpelling
import StreamRequest.Proofs.Request.Attempt
import StreamRequest.Proofs.Request.OnlyRefusals
import StreamRequest.Proofs.Text.Unescape
import StreamRequest.Proofs.CommandLine.Run
import StreamRequest.Proofs.CommandLine.Help
import StreamRequest.Proofs.CommandLine.Parse
import StreamRequest.Proofs.CommandLine.HexArguments
import StreamRequest.Proofs.CommandLine.Encode
import StreamRequest.Proofs.Text.Json
import StreamRequest.Proofs.Text.Base64
import StreamRequest.Proofs.Command.Json
import StreamRequest.Proofs.Command.Describe
import StreamRequest.Proofs.Request.Target
import StreamRequest.Proofs.CommandLine.Level
import StreamRequest.Proofs.CommandLine.Log
import StreamRequest.Proofs.Text.CaseChange
import StreamRequest.Proofs.Request.Dispatch
import StreamRequest.Proofs.Request.Arguments
import StreamRequest.Proofs.Value.BrokenLine
import StreamRequest.Proofs.Text.Utf8Prefix
import StreamRequest.Proofs.Payload.View
import StreamRequest.Proofs.Text.Utf8Cause
import StreamRequest.Proofs.Request.NotText
import StreamRequest.Proofs.Text.Quoted
import StreamRequest.Proofs.Payload.Line
import StreamRequest.Proofs.Command.Unambiguous
import StreamRequest.Proofs.Payload.Bounded
import StreamRequest.Proofs.Command.Bounded
import StreamRequest.Proofs.Text.UpperCase
import StreamRequest.Proofs.Settings.Accepted
import StreamRequest.Proofs.Text.ControlSequence
import StreamRequest.Proofs.Text.Lines
import StreamRequest.Proofs.CommandLine.Table
