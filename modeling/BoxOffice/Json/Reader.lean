import BoxOffice.Json.Tree

/-!
# Reading values off trees

A `Reader α` reads a value of type `α` off a tree, from left to right, and reports the first
problem. What a value has to be:

* `int64`, `uint32`, `uint64` -- an integer within bounds; a number with fraction or exponent is none;
* `float64` -- any number;
* `text` -- a text; `list r` -- a list of what `r` reads; `orNull r` -- null, or what `r` reads;
* `oneOf a b` -- one of two names, as a text or as an object that maps the name to null.

`Tree.skip` passes over a value that nobody asked for. `Reader.read r s` reads a whole text.
-/

namespace BoxOffice.Json

open BoxOffice.Number

/-- Reads a value of type `α` off a tree. -/
abbrev Reader (α : Type) := Tree → Except Problem α

/-- Success unless there is a fault. -/
def unlessFault : Option Fault → Except Fault Unit
  | none => .ok ()
  | some f => .error f

@[simp] theorem unlessFault_eq_ok {f : Option Fault} : unlessFault f = .ok () ↔ f = none := by
  cases f <;> simp [unlessFault]

/-! ## 1. Values that nobody asked for -/

mutual

/-- Passes over a value: it has to be JSON, but numbers may be out of range and surrogates alone. -/
def Tree.skip : Tree → Except Fault Unit
  | .null => .ok ()
  | .boolean _ => .ok ()
  | .number _ => .ok ()
  | .text q => q.skip
  | .list items e => do
    Tree.skipItems items
    unlessFault e.faultInSkipped?
  | .object members e => do
    Tree.skipMembers members
    unlessFault e.faultInSkipped?
  | .broken b => .error b.faultInSkipped

/-- Passes over items. -/
def Tree.skipItems : List Tree → Except Fault Unit
  | [] => .ok ()
  | t :: ts => do
    t.skip
    Tree.skipItems ts

/-- Passes over members. -/
def Tree.skipMembers : List (Quoted × Tree) → Except Fault Unit
  | [] => .ok ()
  | m :: ms => do
    Tree.skipMember m
    Tree.skipMembers ms

/-- Passes over one member. -/
def Tree.skipMember : Quoted × Tree → Except Fault Unit
  | (k, t) => do
    k.skip
    t.skip

end

/-! ## 2. Values of another kind -/

/-- What an amount was found to be. -/
def Amount.seen : Amount → Seen
  | .integer n => .integer n
  | .float x => .float x

/-- What a tree was found to be. Everything but lists and objects is read completely for this. -/
def Tree.seen : Tree → Except Fault Seen
  | .null => .ok .null
  | .boolean b => .ok (.boolean b)
  | .number n => n.amount.map Amount.seen
  | .text q => q.read.map Seen.text
  | .list _ _ => .ok .list
  | .object _ _ => .ok .object
  | .broken b => .error b.fault

/-- The problem that a tree is not of the wanted kind. -/
def wrongKind {α : Type} (w : Wanted) (t : Tree) : Except Problem α :=
  match t.seen with
  | .ok s => .error (.here (.wrongKind s w))
  | .error f => .error (.here f)

/-! ## 3. Scalars -/

/-- An integer within the bounds. -/
def integer (b : Bounds) (w : Wanted) : Reader Int
  | .number n =>
    match n.amount with
    | .ok (.integer k) =>
      if -(b.down : Int) ≤ k ∧ k ≤ b.up then .ok k else .error (.here (.outOfBounds k w))
    | .ok (.float x) => .error (.here (.wrongKind (.float x) w))
    | .error f => .error (.here f)
  | t => wrongKind w t

/-- A signed integer of 64 bits. -/
def int64 : Reader Int64 := fun t => (integer .int64 .int64 t).map Int64.ofInt

/-- An unsigned integer of 32 bits. -/
def uint32 : Reader UInt32 := fun t => (integer .uint32 .uint32 t).map fun n => .ofNat n.toNat

/-- An unsigned integer of 64 bits. -/
def uint64 : Reader UInt64 := fun t => (integer .uint64 .uint64 t).map fun n => .ofNat n.toNat

/-- A double. -/
def float64 : Reader Float
  | .number n => here (n.amount.map Amount.toFloat)
  | t => wrongKind .float64 t

/-- A text. -/
def text : Reader String
  | .text q => here q.read
  | t => wrongKind .text t

/-! ## 4. Lists, options, names -/

/-- The items of a list, the first of which has the index `i`. -/
def items {α : Type} (r : Reader α) (i : Nat) : List Tree → Except Problem (List α)
  | [] => .ok []
  | t :: ts => do
    let a ← under (.item i) (r t)
    let as ← items r (i + 1) ts
    return a :: as

/-- A list. -/
def list {α : Type} (r : Reader α) : Reader (List α)
  | .list ts e => do
    let as ← items r 0 ts
    here (unlessFault e.fault?)
    return as
  | t => wrongKind .list t

/-- Null, or what `r` reads. -/
def orNull {α : Type} (r : Reader α) : Reader (Option α)
  | .null => .ok none
  | t => (r t).map some

/-- Null. -/
def unit : Reader Unit
  | .null => .ok ()
  | t => wrongKind .unit t

/-- The value behind one of two names. -/
def named {α : Type} (a b : String × α) (name : String) : Except Fault α :=
  if name = a.1 then .ok a.2
  else if name = b.1 then .ok b.2
  else .error (.unknownVariant name a.1 b.1)

/-- The fault of an object that names nothing. -/
def namelessFault : ObjectEnd → Fault
  | .noKey => .keyNotText
  | .unfinished => .endOfObject
  | _ => .expectedValue

/-- The fault of an object after the one member it may have. -/
def afterNameFault? (more : Bool) : ObjectEnd → Option Fault
  | .closed => if more then some .expectedValue else none
  | .unfinished => if more then some .expectedValue else some .endOfObject
  | _ => some .expectedValue

/-- One of two names, as a text or as an object that maps the name to null. -/
def oneOf {α : Type} (a b : String × α) : Reader α
  | .text q => here (q.read >>= named a b)
  | .object [] e => .error (.here (namelessFault e))
  | .object ((k, t) :: more) e => do
    let v ← here (k.read >>= named a b)
    unit t
    here (unlessFault (afterNameFault? (!more.isEmpty) e))
    return v
  | .broken (.word _) | .broken (.number _) => .error (.here .expectedValue)
  | .broken b => .error (.here b.fault)
  | .null | .boolean _ | .number _ | .list _ _ => .error (.here .expectedValue)

/-! ## 5. Whole texts -/

/-- **Reads a whole text.** Nothing may follow the value. -/
def Reader.read {α : Type} (r : Reader α) (s : String) : Except Problem α := do
  let a ← r (Tree.ofText s).1
  if (Tree.ofText s).2 then .error (.here .trailingCharacters) else return a

end BoxOffice.Json
