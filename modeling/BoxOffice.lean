import BoxOffice.Text.LowerCase
import BoxOffice.Text.Literal
import BoxOffice.Text.Form
import BoxOffice.Text.AsciiCase
import BoxOffice.Number.Bounded
import BoxOffice.Number.FloatStyle
import BoxOffice.Number.ReadFloat
import BoxOffice.Json.Record
import BoxOffice.Json.Value
import BoxOffice.Location
import BoxOffice.Ticket
import BoxOffice.Invoice
import BoxOffice.Table
import BoxOffice.Store.Sale
import BoxOffice.Store.Search
import BoxOffice.Server.Answer
import BoxOffice.Server.Address
import BoxOffice.Client.Session
import BoxOffice.Client.Settings
import BoxOffice.Loopback
import BoxOffice.Inspect.Values
import BoxOffice.Inspect.Client
import BoxOffice.Main
import BoxOffice.Proofs.Addressing
import BoxOffice.Proofs.Atomicity
import BoxOffice.Proofs.Commuting
import BoxOffice.Proofs.Criteria
import BoxOffice.Proofs.Deed
import BoxOffice.Proofs.DoubleBooking
import BoxOffice.Proofs.Exchange
import BoxOffice.Proofs.Finding
import BoxOffice.Proofs.History
import BoxOffice.Proofs.Holding
import BoxOffice.Proofs.Json.Extent
import BoxOffice.Proofs.Json.Fields
import BoxOffice.Proofs.Json.Members
import BoxOffice.Proofs.Json.Numeral
import BoxOffice.Proofs.Json.Quoted
import BoxOffice.Proofs.Json.Scale
import BoxOffice.Proofs.Json.Shape
import BoxOffice.Proofs.Json.Spacing
import BoxOffice.Proofs.Json.Tokens
import BoxOffice.Proofs.Json.Written
import BoxOffice.Proofs.Layout
import BoxOffice.Proofs.LifeCycle
import BoxOffice.Proofs.Loopback
import BoxOffice.Proofs.Money
import BoxOffice.Proofs.Number.Digits
import BoxOffice.Proofs.Number.Identified
import BoxOffice.Proofs.Number.Packing
import BoxOffice.Proofs.Number.Rounding
import BoxOffice.Proofs.Number.Scaling
import BoxOffice.Proofs.Number.Shortest
import BoxOffice.Proofs.Number.Sum
import BoxOffice.Proofs.Numbering
import BoxOffice.Proofs.Occupancy
import BoxOffice.Proofs.Overwriting
import BoxOffice.Proofs.Paging
import BoxOffice.Proofs.Payment
import BoxOffice.Proofs.Query
import BoxOffice.Proofs.Refund
import BoxOffice.Proofs.Reservation
import BoxOffice.Proofs.Retry
import BoxOffice.Proofs.Session
import BoxOffice.Proofs.Settings
import BoxOffice.Proofs.Site
import BoxOffice.Proofs.Template
import BoxOffice.Proofs.Text.Form
import BoxOffice.Proofs.Text.LowerCase
import BoxOffice.Proofs.Text.Trim
import BoxOffice.Proofs.Text.Utf8
import BoxOffice.Proofs.Total
import BoxOffice.Proofs.Unambiguous
import BoxOffice.Proofs.Undoing
import BoxOffice.Proofs.Wire
