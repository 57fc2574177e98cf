import WebSso.Config.Read
import WebSso.IdentityProvider.Answer
import WebSso.AuthnRequest
import WebSso.Validator
import WebSso.Signature.Reading
import WebSso.Proofs.ReplayCache.Lookup
import WebSso.Proofs.ReplayCache.Calls
import WebSso.Proofs.ReplayCache.History
import WebSso.Proofs.ReplayCache.Winner
import WebSso.Proofs.Assertion.Build
import WebSso.Proofs.Flow.Step
import WebSso.Proofs.IdentityProvider.Freshness
import WebSso.Proofs.IdentityProvider.Issue
import WebSso.Proofs.IdentityProvider.Respond
import WebSso.Proofs.IdentityProvider.Calls
import WebSso.Proofs.IdentityProvider.Replay
import WebSso.Proofs.Time.Range
import WebSso.Proofs.Codec.Base64
import WebSso.Proofs.Config.Directory
import WebSso.Proofs.IdentityProvider.Range
import WebSso.Proofs.IdentityProvider.Password
import WebSso.Proofs.IdentityProvider.Unsolicited
import WebSso.Proofs.IdentityProvider.Denied
import WebSso.Proofs.IdentityProvider.Addressed
import WebSso.Proofs.Attributes.Change
import WebSso.Proofs.Attributes.Withheld
import WebSso.Proofs.Xml.Escape
import WebSso.Proofs.Xml.Tag
import WebSso.Proofs.Xml.Joined
import WebSso.Proofs.Xml.Injective
import WebSso.Proofs.Time.Calendar
import WebSso.Proofs.Time.Written
import WebSso.Proofs.Time.Dates
import WebSso.Proofs.Time.RoundTrip
import WebSso.Proofs.Assertion.Wire
import WebSso.Proofs.Codec.Deflate.Stream
import WebSso.Proofs.Codec.Deflate.Huffman
import WebSso.Proofs.Codec.Deflate.Format
import WebSso.Proofs.Codec.Deflate.Token
import WebSso.Proofs.Codec.Deflate.Codes
import WebSso.Proofs.Codec.Deflate.Blocks
import WebSso.Proofs.Codec.Deflate.Bound
import WebSso.Proofs.Codec.Deflate.Stored
import WebSso.Proofs.Binding.Redirect
import WebSso.Proofs.Json.Record
import WebSso.Proofs.Config.Load
import WebSso.Proofs.Xml.Processor
import WebSso.Proofs.Xml.Received
import WebSso.Proofs.Xml.Report
import WebSso.Proofs.Assertion.Validity
import WebSso.Proofs.Attributes.Regular
import WebSso.Proofs.Flow.Parallel
import WebSso.Proofs.Xml.Alike
import WebSso.Proofs.IdentityProvider.Counterparts
import WebSso.Proofs.IdentityProvider.Agreement
import WebSso.Proofs.Attributes.Rename
import WebSso.Proofs.Attributes.Reorder
import WebSso.Proofs.Json.Table
import WebSso.Proofs.Json.Grammar
import WebSso.Proofs.Json.Scan
import WebSso.Proofs.Json.Parse
import WebSso.Proofs.Config.Tables
import WebSso.Proofs.Signature.Reading
import WebSso.Proofs.Signature.Place
import WebSso.Proofs.Signature.Denied
import WebSso.Proofs.Response.Wire
import WebSso.Proofs.AuthnRequest.Said
import WebSso.Proofs.AuthnRequest.Wire
import WebSso.Proofs.Keyed
import WebSso.Proofs.Attributes.Collected
import WebSso.Proofs.Xml.Attributes
import WebSso.Proofs.Xml.Node
import WebSso.Proofs.Metadata.Reading
import WebSso.Proofs.Metadata.Said
