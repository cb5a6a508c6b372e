import BoxOffice.Json.Reader
import BoxOffice.Text.Hex

/-!
# JSON values

* `Value` -- a value of any shape, with the members of an object in their order;
* `Value.write v` -- its compact text;
* `Value.any` -- reads a value of any shape. The members of an object are then sorted by name, and
  of members with one name the last counts. At most 127 lists and objects may lie inside each other.
-/

namespace BoxOffice.Json

open BoxOffice.Number
open BoxOffice.Text

/-- A JSON value. -/
inductive Value where
  | null
  | boolean (b : Bool)
  | integer (n : Int)
  | float (x : Float)
  | text (s : String)
  | list (items : List Value)
  | object (members : List (String × Value))
  deriving Repr

/-! ## 1. Writing -/

/-- A character inside a text: quotation mark, backslash and controls are escaped, nothing else. -/
def writeChar (c : Char) : List Char :=
  match c with
  | '"' => ['\\', '"']
  | '\\' => ['\\', '\\']
  | '\x08' => ['\\', 'b']
  | '\x0c' => ['\\', 'f']
  | '\n' => ['\\', 'n']
  | '\r' => ['\\', 'r']
  | '\t' => ['\\', 't']
  | c =>
    if c < ' ' then
      ['\\', 'u', '0', '0', lowerHexDigit (c.toNat / 16), lowerHexDigit (c.toNat % 16)]
    else [c]

/-- A text with its quotation marks. -/
def writeText (s : String) : List Char := '"' :: s.toList.flatMap writeChar ++ ['"']

mutual

/-- The compact text of a value, as characters. -/
def Value.chars : Value → List Char
  | .null => ['n', 'u', 'l', 'l']
  | .boolean true => ['t', 'r', 'u', 'e']
  | .boolean false => ['f', 'a', 'l', 's', 'e']
  | .integer n => intDigits n
  | .float x => writeFloat x
  | .text s => writeText s
  | .list vs => '[' :: Value.itemChars vs ++ [']']
  | .object ms => '{' :: Value.memberChars ms ++ ['}']

/-- Items with commas between them. -/
def Value.itemChars : List Value → List Char
  | [] => []
  | [v] => v.chars
  | v :: w :: vs => v.chars ++ ',' :: Value.itemChars (w :: vs)

/-- Members with commas between them. -/
def Value.memberChars : List (String × Value) → List Char
  | [] => []
  | [m] => Value.memberChar m
  | m :: n :: ms => Value.memberChar m ++ ',' :: Value.memberChars (n :: ms)

/-- One member. -/
def Value.memberChar : String × Value → List Char
  | (k, v) => writeText k ++ ':' :: v.chars

end

/-- **The compact text of a value.** -/
def Value.write (v : Value) : String := String.ofList v.chars

/-! ## 2. Reading -/

/-- The greatest number of lists and objects inside each other. -/
def depthLimit : Nat := 127

/-- A member put in its place in a list sorted by name; one of the same name goes. -/
def putMember (k : String) (v : Value) : List (String × Value) → List (String × Value)
  | [] => [(k, v)]
  | (k', v') :: ms =>
    if k = k' then (k, v) :: ms
    else if k < k' then (k, v) :: (k', v') :: ms
    else (k', v') :: putMember k v ms

mutual

/-- The value of a tree that lies inside `depth` lists and objects. -/
def Tree.toValue (depth : Nat) : Tree → Except Fault Value
  | .null => .ok .null
  | .boolean b => .ok (.boolean b)
  | .number n => n.amount.map fun
    | .integer k => .integer k
    | .float x => .float x
  | .text q => q.read.map .text
  | .list ts e =>
    if depthLimit ≤ depth then .error .tooDeep
    else do
      let vs ← Tree.toItems (depth + 1) ts
      unlessFault e.fault?
      return .list vs
  | .object ms e =>
    if depthLimit ≤ depth then .error .tooDeep
    else do
      let vs ← Tree.toMembers (depth + 1) [] ms
      unlessFault e.fault?
      return .object vs
  | .broken b => .error b.fault

/-- The values of items. -/
def Tree.toItems (depth : Nat) : List Tree → Except Fault (List Value)
  | [] => .ok []
  | t :: ts => do
    let v ← t.toValue depth
    let vs ← Tree.toItems depth ts
    return v :: vs

/-- The members of an object, put among those read before. -/
def Tree.toMembers (depth : Nat) (done : List (String × Value)) :
    List (Quoted × Tree) → Except Fault (List (String × Value))
  | [] => .ok done
  | m :: ms => do
    let (k, v) ← Tree.toMember depth m
    Tree.toMembers depth (putMember k v done) ms

/-- One member. -/
def Tree.toMember (depth : Nat) : Quoted × Tree → Except Fault (String × Value)
  | (k, t) => do
    let name ← k.read
    let v ← t.toValue depth
    return (name, v)

end

/-- Reads a value of any shape. -/
def Value.any : Reader Value := fun t => here (t.toValue 0)

/-- The value of the member of that name. -/
def Value.member? (name : String) : Value → Option Value
  | .object ms => ms.lookup name
  | _ => none

end BoxOffice.Json
