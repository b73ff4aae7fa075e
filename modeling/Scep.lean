import Scep.Text.Blank
import Scep.Text.Quoted
import Scep.Text.Utf8
import Scep.Number.Real
import Scep.Base64
import Scep.Fault
import Scep.Operation
import Scep.Exchange.Answer
import Scep.Exchange.Message
import Scep.Exchange.Request
import Scep.Checksum
import Scep.Exchange.ContentCoding
import Scep.Exchange.Delivery
import Scep.Idn.Table.Codepoint
import Scep.Idn.Table.Composition
import Scep.Idn.Table.Direction
import Scep.Idn.Table.Joining
import Scep.Text.Lowercase
import Scep.Text.Percent
import Scep.Idn.Composed
import Scep.Idn.Direction
import Scep.Idn.Label
import Scep.Number.Whole
import Scep.Url.Address
import Scep.Url.Basic
import Scep.Url.Parse
import Scep.Exchange.Outgoing
import Scep.Exchange.PrefixCode
import Scep.Value
import Scep.Yaml.Cursor
import Scep.Yaml.Scalar
import Scep.Yaml.Property
import Scep.Yaml.Token
import Scep.Yaml.Node
import Scep.Number.Nearest
import Scep.Yaml.Document
import Scep.Files
import Scep.Settings.Basic
import Scep.Settings.Field
import Scep.Settings.Load
import Scep.Audit
import Scep.Certificate.Der
import Scep.Certificate.Pem
import Scep.Responder.Launch
import Scep.Certificate.Basic
import Scep.Certificate.Chain
import Scep.Certificate.Store
import Scep.Cache
import Scep.Client.Guard
import Scep.Client.Session
import Scep.Responder.Arrival
import Scep.Responder.Host
import Scep.Client.Basic
import Scep.Client.Loopback
import Scep.Client.Script
import Scep.Main
import Scep.Proofs.Base64
import Scep.Proofs.Base64.Grammar
import Scep.Proofs.Cache.Basic
import Scep.Proofs.Cache.SingleFlight
import Scep.Proofs.Cache.Change
import Scep.Proofs.Cache.Remembrance
import Scep.Proofs.Cache.Running
import Scep.Proofs.Cache.Closing
import Scep.Proofs.Cache.Departure
import Scep.Proofs.Cache.Reader
import Scep.Proofs.Text.Utf8
import Scep.Proofs.Text.Search
import Scep.Proofs.Text.Percent
import Scep.Proofs.Query.Text
import Scep.Proofs.Query.Values
import Scep.Proofs.Query.Length
import Scep.Proofs.Query.Names
import Scep.Proofs.Sequence
import Scep.Proofs.Url.Rebuild
import Scep.Proofs.Text.Segment
import Scep.Proofs.Idn.Name
import Scep.Proofs.Url.Normal
import Scep.Proofs.Exchange.Delivery
import Scep.Proofs.Exchange.Stream
import Scep.Proofs.Exchange.Body
import Scep.Proofs.Exchange.Answer
import Scep.Proofs.Exchange.Outgoing
import Scep.Proofs.Exchange.Address
import Scep.Proofs.Exchange.Message
import Scep.Proofs.Exchange.Encoding
import Scep.Proofs.Exchange.Receipt
import Scep.Proofs.Responder.Arrival
import Scep.Proofs.Responder.Route
import Scep.Proofs.Responder.Refusal
import Scep.Proofs.Responder.Visit
import Scep.Proofs.Responder.Account
import Scep.Proofs.Settings.Capabilities
import Scep.Proofs.Certificate.Store
import Scep.Proofs.Client.Session
import Scep.Proofs.Client.Reading
import Scep.Proofs.Client.Enrollment
import Scep.Proofs.Client.Encoding
import Scep.Proofs.Client.Loopback
import Scep.Proofs.Client.Transparency
import Scep.Proofs.Client.Question
import Scep.Proofs.Client.Capabilities
import Scep.Proofs.Client.Certificates
import Scep.Proofs.Responder.Sharing
import Scep.Proofs.Client.Recheck
import Scep.Proofs.Client.Departure
import Scep.Proofs.Client.Run
import Scep.Proofs.Client.Erasure
import Scep.Proofs.Client.Core
import Scep.Proofs.Client.Step
import Scep.Proofs.Client.Keeping
import Scep.Proofs.Client.Telling
import Scep.Proofs.Client.Translation
import Scep.Proofs.Client.Report
import Scep.Proofs.Client.History
import Scep.Proofs.Client.Turn
import Scep.Proofs.Client.Asking
import Scep.Proofs.Client.Told
import Scep.Proofs.Client.Negotiation
import Scep.Proofs.Responder.Limit
import Scep.Proofs.Certificate.Loading
import Scep.Proofs.Url.Scheme
import Scep.Proofs.Idn.Punycode
import Scep.Proofs.Idn.Shown
import Scep.Proofs.Url.Host
import Scep.Proofs.Text.Truncation
import Scep.Proofs.Exchange.Diagnosis
import Scep.Proofs.Responder.Legibility
import Scep.Proofs.Responder.Endpoints
