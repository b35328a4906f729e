import DnsHealth.Address.Basic
import DnsHealth.Address.Text
import DnsHealth.Bytes
import DnsHealth.Chain.Verdict
import DnsHealth.Chain.Walk
import DnsHealth.Chain.Zone
import DnsHealth.Client.Basic
import DnsHealth.Client.Conversation
import DnsHealth.Client.Framing
import DnsHealth.Client.Inquiry
import DnsHealth.Client.Link
import DnsHealth.Client.Network
import DnsHealth.Client.Process
import DnsHealth.Client.Sockets
import DnsHealth.Client.Tasks
import DnsHealth.Client.Transfer
import DnsHealth.CommandLine
import DnsHealth.Crypto.Blocks
import DnsHealth.Crypto.Ecdsa
import DnsHealth.Crypto.Ed25519
import DnsHealth.Crypto.Field
import DnsHealth.Crypto.Power
import DnsHealth.Crypto.Rsa
import DnsHealth.Crypto.Sha1
import DnsHealth.Crypto.Sha2
import DnsHealth.Diagnosis.Report
import DnsHealth.Diagnosis.Run
import DnsHealth.Diagnosis.Text
import DnsHealth.Failure
import DnsHealth.Json.Basic
import DnsHealth.Json.Decode
import DnsHealth.Main
import DnsHealth.Message.Convert
import DnsHealth.Message.Decode
import DnsHealth.Message.Extensions
import DnsHealth.Message.Property
import DnsHealth.Message.Query
import DnsHealth.Message.Rcode
import DnsHealth.Message.Rdata
import DnsHealth.Message.Reader
import DnsHealth.Message.Response
import DnsHealth.Message.TypeBitmap
import DnsHealth.Name.Basic
import DnsHealth.Name.Labels
import DnsHealth.Name.Wire
import DnsHealth.Nameserver.Basic
import DnsHealth.Nameserver.Inspect
import DnsHealth.Nameserver.Lookup
import DnsHealth.Nameserver.Race
import DnsHealth.Number.Binary64
import DnsHealth.Number.Rounding
import DnsHealth.Number.Word
import DnsHealth.Proofs.Address.Text
import DnsHealth.Proofs.Bytes
import DnsHealth.Proofs.Chain.Acceptance
import DnsHealth.Proofs.Chain.Failures
import DnsHealth.Proofs.Chain.Keys
import DnsHealth.Proofs.Chain.Linkage
import DnsHealth.Proofs.Chain.Order
import DnsHealth.Proofs.Chain.Signers
import DnsHealth.Proofs.Chain.Walk
import DnsHealth.Proofs.Client.Closing
import DnsHealth.Proofs.Client.Exchange
import DnsHealth.Proofs.Client.Framing
import DnsHealth.Proofs.Client.Inquiry
import DnsHealth.Proofs.Client.Matching
import DnsHealth.Proofs.Client.Peers
import DnsHealth.Proofs.Client.Process
import DnsHealth.Proofs.Client.Results
import DnsHealth.Proofs.Client.Settling
import DnsHealth.Proofs.Client.WholeZone
import DnsHealth.Proofs.Diagnosis.RoundTrip
import DnsHealth.Proofs.Diagnosis.ScanSection
import DnsHealth.Proofs.Diagnosis.Stops
import DnsHealth.Proofs.Fallible
import DnsHealth.Proofs.Json.Reading
import DnsHealth.Proofs.Message.Fidelity
import DnsHealth.Proofs.Message.Query
import DnsHealth.Proofs.Message.Reading
import DnsHealth.Proofs.Message.Uncompressed
import DnsHealth.Proofs.Name.Ancestors
import DnsHealth.Proofs.Name.Case
import DnsHealth.Proofs.Name.Count
import DnsHealth.Proofs.Name.Presentation
import DnsHealth.Proofs.Name.Reading
import DnsHealth.Proofs.Name.Unescaped
import DnsHealth.Proofs.Name.Wire
import DnsHealth.Proofs.Name.Zones
import DnsHealth.Proofs.Nameserver.Agreement
import DnsHealth.Proofs.Nameserver.Execution
import DnsHealth.Proofs.Nameserver.Inspection
import DnsHealth.Proofs.Nameserver.Runs
import DnsHealth.Proofs.Nameserver.Trace
import DnsHealth.Proofs.Nameserver.Transparency
import DnsHealth.Proofs.Record.Caa
import DnsHealth.Proofs.Record.Canonical
import DnsHealth.Proofs.Record.Columns
import DnsHealth.Proofs.Record.Insertions
import DnsHealth.Proofs.Record.Json
import DnsHealth.Proofs.Record.KeyTag
import DnsHealth.Proofs.Record.KeyTagMap
import DnsHealth.Proofs.Record.Line
import DnsHealth.Proofs.Record.Rdata
import DnsHealth.Proofs.Scan.Collection
import DnsHealth.Proofs.Scan.Conservation
import DnsHealth.Proofs.Scan.Deaths
import DnsHealth.Proofs.Scan.Lines
import DnsHealth.Proofs.Scan.Names
import DnsHealth.Proofs.Scan.Outcome
import DnsHealth.Proofs.Scan.Probes
import DnsHealth.Proofs.Scan.Progress
import DnsHealth.Proofs.Scan.Schedule
import DnsHealth.Proofs.Scan.Steps
import DnsHealth.Proofs.Scan.Transfers
import DnsHealth.Proofs.Scan.Wildcard
import DnsHealth.Proofs.Signature.Check
import DnsHealth.Proofs.Signature.Digest
import DnsHealth.Proofs.Signature.Readback
import DnsHealth.Proofs.Signature.Search
import DnsHealth.Proofs.Signature.SignedData
import DnsHealth.Proofs.Signature.Wildcard
import DnsHealth.Proofs.Signature.Window
import DnsHealth.Proofs.Sorting
import DnsHealth.Proofs.Text.Codes
import DnsHealth.Proofs.Text.Control
import DnsHealth.Proofs.Text.Digits
import DnsHealth.Proofs.Text.Order
import DnsHealth.Proofs.Text.Quoted
import DnsHealth.Proofs.Text.Splitting
import DnsHealth.Proofs.Text.Utf8
import DnsHealth.Record.Canonical
import DnsHealth.Record.Data
import DnsHealth.Record.Dnskey
import DnsHealth.Record.Ds
import DnsHealth.Record.Json
import DnsHealth.Record.KeyTagMap
import DnsHealth.Record.Rrsig
import DnsHealth.Record.Text
import DnsHealth.Record.Type
import DnsHealth.Scan.Dictionary
import DnsHealth.Scan.Interleaving
import DnsHealth.Scan.Plan
import DnsHealth.Scan.Probe
import DnsHealth.Scan.Report
import DnsHealth.Scan.Request
import DnsHealth.Scan.Run
import DnsHealth.Scan.Sweep
import DnsHealth.Scan.Wildcard
import DnsHealth.Settings.Basic
import DnsHealth.Settings.Document
import DnsHealth.Settings.Load
import DnsHealth.Signature.Check
import DnsHealth.Signature.SignedData
import DnsHealth.Signature.Verifier
import DnsHealth.Signature.Window
import DnsHealth.Sorting
import DnsHealth.Text.Base64
import DnsHealth.Text.Blank
import DnsHealth.Text.Composed
import DnsHealth.Text.Decimal
import DnsHealth.Text.Hex
import DnsHealth.Text.Idna.Direction
import DnsHealth.Text.Idna.Domain
import DnsHealth.Text.Idna.Joining
import DnsHealth.Text.Idna.Mapping
import DnsHealth.Text.Numeric
import DnsHealth.Text.Punycode
import DnsHealth.Text.Quoted
import DnsHealth.Text.Shown
import DnsHealth.Text.Table
import DnsHealth.Text.Url.Escape
import DnsHealth.Text.Url.Host
import DnsHealth.Text.Url.Locator
import DnsHealth.Text.Url.Path
import DnsHealth.Text.Utf8
import DnsHealth.Time.Calendar
import DnsHealth.Time.Duration
import DnsHealth.Toml.Document
import DnsHealth.Toml.Quoted
import DnsHealth.Toml.Scalar
import DnsHealth.Toml.Value
import DnsHealth.Proofs.Crypto.PublicKey
import DnsHealth.Proofs.Chain.Turns
import DnsHealth.Proofs.Diagnosis.Contacts
