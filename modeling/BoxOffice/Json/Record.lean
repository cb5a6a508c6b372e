import BoxOffice.Json.Reader

/-!
# Reading records

A record is read from an object by the names of its fields, in any order, with members of other
names passed over; or from a list that holds its fields in the order of their declaration.

A `Record α` says which fields there are and how to make an `α` of them. Records are put together
from `field` and `optional` with `<$>` and `<*>`, each field named once:

* reading first goes through the members from left to right and checks each value against the
  field of its name (`Record.members`), or item by item (`Record.positions`);
* then the record is built of the values found; now a field may turn out to be missing, the first
  one in the order of declaration is reported.
-/

namespace BoxOffice.Json

/-- A field of a record: its name, and what its value has to pass. -/
structure Field where
  name : String
  check : Tree → Except Problem Unit

/-- The fields of a record, and the record that values found under their names make. -/
structure Record (α : Type) where
  fields : List Field
  build : List (String × Tree) → Except Problem α

namespace Record

/-- A record without fields. -/
def pure {α : Type} (a : α) : Record α := ⟨[], fun _ => .ok a⟩

/-- Two records put together. -/
def seq {α β : Type} (f : Record (α → β)) (x : Unit → Record α) : Record β :=
  ⟨f.fields ++ (x ()).fields, fun found => do
    let g ← f.build found
    let a ← (x ()).build found
    return g a⟩

instance : Applicative Record where
  pure := pure
  seq := seq

end Record

/-- What a reader checks of a value. -/
def Reader.check {α : Type} (r : Reader α) : Tree → Except Problem Unit :=
  fun t => (r t).map fun _ => ()

/-- A field that has to be there. -/
def field {α : Type} (name : String) (r : Reader α) : Record α :=
  ⟨[⟨name, r.check⟩], fun found =>
    match found.lookup name with
    | some t => under (.member name) (r t)
    | none => .error (.here (.missingField name))⟩

/-- A field that may be null or missing. -/
def optional {α : Type} (name : String) (r : Reader α) : Record (Option α) :=
  ⟨[⟨name, (orNull r).check⟩], fun found =>
    match found.lookup name with
    | some t => under (.member name) (orNull r t)
    | none => .ok none⟩

namespace Record

/-- Goes through members; `found` holds the values of the fields met before. A missing colon is a
    fault of the record, all else after the key one of the member. -/
def members (fields : List Field) (found : List (String × Tree)) :
    List (Quoted × Tree) → Except Problem (List (String × Tree))
  | [] => .ok found
  | (k, t) :: ms => do
    let name ← here k.read
    match fields.find? (·.name == name) with
    | some f =>
      if (found.lookup name).isSome then .error (.here (.duplicateField name))
      else do
        here (unlessFault t.colonFault?)
        under (.member name) (f.check t)
        members fields (found ++ [(name, t)]) ms
    | none => do
      here (unlessFault t.colonFault?)
      under (.member name) (here t.skip)
      members fields found ms

/-- Goes through items, the first of which has the index `i`; `title` and `count` name the record
    and the number of its fields. -/
def positions (title : String) (count : Nat) (ending : ListEnd) (i : Nat) :
    List Field → List Tree → Except Problem (List (String × Tree))
  | [], [] => do
    here (unlessFault ending.faultWhenFull?)
    return []
  | [], _ :: _ => .error (.here .trailingCharacters)
  | _ :: _, [] =>
    match ending.fault? with
    | none => .error (.here (.wrongLength i title count))
    | some f => .error (.here f)
  | f :: fs, t :: ts => do
    under (.item i) (f.check t)
    let rest ← positions title count ending (i + 1) fs ts
    return (f.name, t) :: rest

/-- **Reads a record** from an object or from a list. -/
def reader {α : Type} (r : Record α) (title : String) : Reader α
  | .object ms e => do
    let found ← members r.fields [] ms
    here (unlessFault e.fault?)
    r.build found
  | .list ts e => do
    let found ← positions title r.fields.length e 0 r.fields ts
    r.build found
  | t => wrongKind (.record title) t

end Record

end BoxOffice.Json
