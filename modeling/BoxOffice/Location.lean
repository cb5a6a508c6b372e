/-!
# Locations

Venues, the search for them, and pages of results:

* `Location` -- a venue with its address;
* `LocationFilter` -- words wanted in the parts of a location; a missing word asks for nothing;
* `PageRequest` -- which page of a listing is wanted, and how long pages are;
* `Page α` -- one page of a listing.
-/

namespace BoxOffice

/-- A venue. -/
structure Location where
  id : Int64
  name : String
  address : String
  postalCode : String
  city : String
  country : String
  deriving DecidableEq, Repr

/-- Words wanted in the parts of a location. -/
structure LocationFilter where
  name : Option String
  address : Option String
  city : Option String
  country : Option String
  postalCode : Option String
  deriving DecidableEq, Repr, Inhabited

/-- The wanted page of a listing. -/
structure PageRequest where
  index : Option UInt32
  size : Option UInt32
  deriving DecidableEq, Repr, Inhabited

/-- One page of a listing. -/
structure Page (α : Type) where
  index : UInt32
  size : UInt32
  totalPages : UInt32
  totalElements : UInt64
  data : List α
  deriving DecidableEq, Repr

end BoxOffice
