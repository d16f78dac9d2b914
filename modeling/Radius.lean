import Radius.Bytes
import Radius.Block
import Radius.Digest.Md5
import Radius.Text.Utf8
import Radius.Text.Utf8.RoundTrip
import Radius.Text.Alphanumeric
import Radius.Text.Parts
import Radius.Text.Digits
import Radius.Text.Quoted
import Radius.Text.Hex
import Radius.Address.V4
import Radius.Address.V6
import Radius.Address
import Radius.Address.Network
import Radius.Code
import Radius.Value
import Radius.Error
import Radius.Password
import Radius.Packet
import Radius.Codec
import Radius.Table
import Radius.Dictionary
import Radius.Dictionary.Standard
import Radius.Packet.Wire
import Radius.Packet.Authenticity
import Radius.Packet.Access
import Radius.Packet.Fresh
import Radius.Packet.Description
import Radius.Json.Text
import Radius.Json.RoundTrip
import Radius.Json.Number
import Radius.Json.Reader
import Radius.Json.Writer
import Radius.Config
import Radius.Config.File
import Radius.Log
import Radius.Log.Pattern
import Radius.Log.Filter
import Radius.Server
import Radius.Inspect.Options
import Radius.Inspect.Folder
import Radius.Inspect
import Radius.Main
import Radius.Proofs.Code
import Radius.Proofs.Dictionary
import Radius.Proofs.Dictionary.History
import Radius.Proofs.Dictionary.Names
import Radius.Proofs.Address.Bits
import Radius.Proofs.Address.Network
import Radius.Proofs.Json
import Radius.Proofs.Config.File
import Radius.Proofs.Password
import Radius.Proofs.Codec
import Radius.Proofs.Codec.Values
import Radius.Proofs.Packet.Record
import Radius.Proofs.Packet.Layout
import Radius.Proofs.Packet.RoundTrip
import Radius.Proofs.Packet.Reencoding
import Radius.Proofs.Packet.Authenticity
import Radius.Proofs.Packet.Slices
import Radius.Proofs.Packet.Grammar
import Radius.Proofs.Packet.Readers
import Radius.Proofs.Packet.Outcome
import Radius.Proofs.Packet.Run
import Radius.Proofs.Server
import Radius.Proofs.Server.Binding
import Radius.Proofs.Config.Clients
import Radius.Proofs.Server.Admission
import Radius.Proofs.Password.Inverse
import Radius.Proofs.Packet.Access
import Radius.Proofs.Packet.InPlace
import Radius.Proofs.Dictionary.Standard
import Radius.Proofs.Packet.Normalization
import Radius.Proofs.Packet.ReadBack
import Radius.Proofs.Packet.Seed
import Radius.Proofs.Packet.Content
import Radius.Proofs.Inspect
import Radius.Proofs.Inspect.Passwords
import Radius.Proofs.Packet.Secret
import Radius.Proofs.Config.Validity
import Radius.Proofs.Server.Validity
import Radius.Proofs.Codec.Normalization
import Radius.Proofs.Codec.Spelling
import Radius.Proofs.Text.Lossy
import Radius.Proofs.Codec.Rendering
import Radius.Proofs.Packet.WriteBack
import Radius.Proofs.Config.Rearrangement
import Radius.Proofs.Server.Rearrangement
import Radius.Proofs.Inspect.Outcome
import Radius.Proofs.Inspect.Printing
import Radius.Proofs.Error
import Radius.Proofs.Server.Trace
