import TenderDesk.Calendar.Day
import TenderDesk.Calendar.Moment
import TenderDesk.Calendar.Reading
import TenderDesk.Desk.Action
import TenderDesk.Desk.Call
import TenderDesk.Desk.Documents
import TenderDesk.Desk.Events
import TenderDesk.Desk.Patience
import TenderDesk.Desk.Records
import TenderDesk.Desk.Rehearsal
import TenderDesk.Desk.Suppliers
import TenderDesk.Desk.Surroundings
import TenderDesk.Desk.Table
import TenderDesk.Document.Check
import TenderDesk.Document.Key
import TenderDesk.Document.Summary
import TenderDesk.Event.Assignment
import TenderDesk.Event.Kind
import TenderDesk.Event.Publication
import TenderDesk.Event.Report
import TenderDesk.Event.Request
import TenderDesk.Event.Status
import TenderDesk.Failure
import TenderDesk.Json.Basic
import TenderDesk.Json.Parser
import TenderDesk.Json.Printer
import TenderDesk.Json.Shown
import TenderDesk.Number.Binary64
import TenderDesk.Number.Reading
import TenderDesk.Proofs.Calendar.Day
import TenderDesk.Proofs.Calendar.Moment
import TenderDesk.Proofs.Calendar.Reading
import TenderDesk.Proofs.Desk.Agreement
import TenderDesk.Proofs.Desk.Assigning
import TenderDesk.Proofs.Desk.Attribution
import TenderDesk.Proofs.Desk.Calm
import TenderDesk.Proofs.Desk.Catalogue
import TenderDesk.Proofs.Desk.Closing
import TenderDesk.Proofs.Desk.Commission
import TenderDesk.Proofs.Desk.Confinement
import TenderDesk.Proofs.Desk.Course
import TenderDesk.Proofs.Desk.Creating
import TenderDesk.Proofs.Desk.Dispatch
import TenderDesk.Proofs.Desk.Endurance
import TenderDesk.Proofs.Desk.Events
import TenderDesk.Proofs.Desk.Fetching
import TenderDesk.Proofs.Desk.Fulfilment
import TenderDesk.Proofs.Desk.History
import TenderDesk.Proofs.Desk.Identity
import TenderDesk.Proofs.Desk.Leftovers
import TenderDesk.Proofs.Desk.Namesakes
import TenderDesk.Proofs.Desk.Operations
import TenderDesk.Proofs.Desk.Order
import TenderDesk.Proofs.Desk.Outage
import TenderDesk.Proofs.Desk.Parallel
import TenderDesk.Proofs.Desk.Patience
import TenderDesk.Proofs.Desk.Publishing
import TenderDesk.Proofs.Desk.Reading
import TenderDesk.Proofs.Desk.Recorded
import TenderDesk.Proofs.Desk.Records
import TenderDesk.Proofs.Desk.Removal
import TenderDesk.Proofs.Desk.Resolution
import TenderDesk.Proofs.Desk.Retraction
import TenderDesk.Proofs.Desk.Showing
import TenderDesk.Proofs.Desk.Soundness
import TenderDesk.Proofs.Desk.SupplierEdit
import TenderDesk.Proofs.Desk.Suppliers
import TenderDesk.Proofs.Desk.Supply
import TenderDesk.Proofs.Desk.Table
import TenderDesk.Proofs.Desk.Triple
import TenderDesk.Proofs.Desk.Turn
import TenderDesk.Proofs.Desk.Twins
import TenderDesk.Proofs.Desk.Updates
import TenderDesk.Proofs.Desk.Uploading
import TenderDesk.Proofs.Desk.Views
import TenderDesk.Proofs.Desk.Writing
import TenderDesk.Proofs.Document.Check
import TenderDesk.Proofs.Document.Decoding
import TenderDesk.Proofs.Document.Extension
import TenderDesk.Proofs.Document.Key
import TenderDesk.Proofs.Event.Publication
import TenderDesk.Proofs.Json.Extent
import TenderDesk.Proofs.Json.Members
import TenderDesk.Proofs.Number.Reading
import TenderDesk.Proofs.Schema.Spelling
import TenderDesk.Proofs.Settings.Extensions
import TenderDesk.Proofs.Settings.Loading
import TenderDesk.Proofs.Settings.Source
import TenderDesk.Proofs.Sourcing.Acknowledgement
import TenderDesk.Proofs.Sourcing.Export
import TenderDesk.Proofs.Sourcing.Extent
import TenderDesk.Proofs.Sourcing.Ledger
import TenderDesk.Proofs.Sourcing.Merge
import TenderDesk.Proofs.Sourcing.Pieces
import TenderDesk.Proofs.Sourcing.Receipt
import TenderDesk.Proofs.Store.Links
import TenderDesk.Proofs.Store.Rows
import TenderDesk.Proofs.Store.Soundness
import TenderDesk.Proofs.Text.Base64
import TenderDesk.Proofs.Text.LowerCase
import TenderDesk.Proofs.Web.Admission
import TenderDesk.Proofs.Web.Download
import TenderDesk.Schema.Codec
import TenderDesk.Schema.Fault
import TenderDesk.Schema.Record
import TenderDesk.Settings.Basic
import TenderDesk.Settings.Environment
import TenderDesk.Settings.Source
import TenderDesk.Sourcing.Answer
import TenderDesk.Sourcing.Exchange
import TenderDesk.Sourcing.Rfx
import TenderDesk.Sourcing.Wire
import TenderDesk.Store.Basic
import TenderDesk.Text.Base64
import TenderDesk.Text.Blank
import TenderDesk.Text.Digit
import TenderDesk.Text.LowerCase
import TenderDesk.Text.Pattern
import TenderDesk.Text.Printable
import TenderDesk.Text.Quoted
import TenderDesk.Text.Utf8
import TenderDesk.Web.Call
import TenderDesk.Web.Origin
import TenderDesk.Web.Request
import TenderDesk.Web.Response
import TenderDesk.Web.Route
import TenderDesk.Web.Service
