import BoxOffice.Json.Token

/-!
# The tree of a JSON text

Every text has a tree: where the tokens make no JSON, the tree ends in a `Break`, or a list or an
object ends other than at its bracket. Reading a tree from left to right meets the first of these
as a fault, unless the shape of the value was found wrong before.

* `Tree` -- a value with the ways in which it may be unfinished;
* `Build` -- what has been read and what is due next; `Build.step` reads one token;
* `Tree.ofTokens ts` -- the tree, and whether something follows a complete value.

The tree is built by a stack of unfinished lists and objects, latest first, so that building is
recursion on the tokens alone.
-/

namespace BoxOffice.Json

/-! ## 1. Trees -/

/-- What stands where a value or the colon before it is due. -/
inductive Break where
  /-- nothing: the input ends where a value is due -/
  | noValue
  /-- a token that begins no value -/
  | notValue
  /-- a word gone wrong, or broken off by the end of the input -/
  | word (atEnd : Bool)
  /-- a number gone wrong, or broken off by the end of the input -/
  | number (atEnd : Bool)
  /-- something else than a colon, or the end of the input before it -/
  | noColon (atEnd : Bool)
  deriving DecidableEq, Repr

/-- How a list ends after its last item. -/
inductive ListEnd where
  /-- at its bracket -/
  | closed
  /-- where the input ends, or with an item that breaks off -/
  | unfinished
  /-- at its bracket after a comma -/
  | commaClosed
  /-- where the input ends after a comma -/
  | commaEnd
  /-- at a token after an item that is neither comma nor bracket -/
  | noComma
  deriving DecidableEq, Repr

/-- How an object ends after its last member. -/
inductive ObjectEnd where
  /-- at its brace -/
  | closed
  /-- where the input ends, or with a member that breaks off -/
  | unfinished
  /-- at its brace after a comma -/
  | commaClosed
  /-- where the input ends after a comma -/
  | commaEnd
  /-- at a token after a member that is neither comma nor brace -/
  | noComma
  /-- at a token that is no key where a key is due -/
  | noKey
  deriving DecidableEq, Repr

/-- A JSON value, complete or not. -/
inductive Tree where
  | null
  | boolean (b : Bool)
  | number (n : Numeral)
  | text (q : Quoted)
  | list (items : List Tree) (ending : ListEnd)
  | object (members : List (Quoted × Tree)) (ending : ObjectEnd)
  | broken (b : Break)
  deriving Repr

/-! ## 2. Building -/

/-- A list or an object around the value that is being read, latest part first. -/
inductive Frame where
  | list (items : List Tree)
  | object (members : List (Quoted × Tree)) (key : Quoted)

/-- What has been read, and what is due next. -/
inductive Build where
  /-- a value -/
  | value (around : List Frame)
  /-- the first item of a list, or its end -/
  | firstItem (around : List Frame)
  /-- an item of a list, after a comma -/
  | nextItem (items : List Tree) (around : List Frame)
  /-- a comma between items, or the end of the list -/
  | afterItem (items : List Tree) (around : List Frame)
  /-- the first key of an object, or its end -/
  | firstKey (around : List Frame)
  /-- a key of an object, after a comma -/
  | nextKey (members : List (Quoted × Tree)) (around : List Frame)
  /-- the colon after a key -/
  | colon (members : List (Quoted × Tree)) (key : Quoted) (around : List Frame)
  /-- a comma between members, or the end of the object -/
  | afterMember (members : List (Quoted × Tree)) (around : List Frame)
  /-- nothing: the outermost value is complete -/
  | complete (t : Tree)
  /-- nothing: the value broke off -/
  | stopped (t : Tree)

namespace Build

/-- A complete value takes its place in what is around it. -/
def deliver (t : Tree) : List Frame → Build
  | [] => .complete t
  | .list items :: around => .afterItem (t :: items) around
  | .object members key :: around => .afterMember ((key, t) :: members) around

/-- A value that breaks off leaves all around it unfinished. -/
def cut (t : Tree) : List Frame → Tree
  | [] => t
  | .list items :: around => cut (.list (t :: items).reverse .unfinished) around
  | .object members key :: around =>
    cut (.object ((key, t) :: members).reverse .unfinished) around

/-- A list that ends. -/
def endList (items : List Tree) (ending : ListEnd) (around : List Frame) : Build :=
  match ending with
  | .closed => deliver (.list items.reverse .closed) around
  | e => .stopped (cut (.list items.reverse e) around)

/-- An object that ends. -/
def endObject (members : List (Quoted × Tree)) (ending : ObjectEnd) (around : List Frame) : Build :=
  match ending with
  | .closed => deliver (.object members.reverse .closed) around
  | e => .stopped (cut (.object members.reverse e) around)

/-- A value begins. -/
def start (around : List Frame) : Token → Build
  | .null => deliver .null around
  | .boolean b => deliver (.boolean b) around
  | .number n => deliver (.number n) around
  | .quoted q => if q.isClosed then deliver (.text q) around else .stopped (cut (.text q) around)
  | .openList => .firstItem around
  | .openObject => .firstKey around
  | .brokenWord atEnd => .stopped (cut (.broken (.word atEnd)) around)
  | .brokenNumber atEnd => .stopped (cut (.broken (.number atEnd)) around)
  | .closeList | .closeObject | .comma | .colon | .stray _ =>
    .stopped (cut (.broken .notValue) around)

/-- A key begins. One that breaks off has no value. -/
def startKey (members : List (Quoted × Tree)) (q : Quoted) (around : List Frame) : Build :=
  if q.isClosed then .colon members q around
  else .stopped (cut (.object ((q, .broken .noValue) :: members).reverse .unfinished) around)

/-- Reads one token. -/
def step : Build → Token → Build
  | .value around, t => start around t
  | .firstItem around, .closeList => endList [] .closed around
  | .firstItem around, t => start (.list [] :: around) t
  | .nextItem items around, .closeList => endList items .commaClosed around
  | .nextItem items around, t => start (.list items :: around) t
  | .afterItem items around, .comma => .nextItem items around
  | .afterItem items around, .closeList => endList items .closed around
  | .afterItem items around, _ => endList items .noComma around
  | .firstKey around, .quoted q => startKey [] q around
  | .firstKey around, .closeObject => endObject [] .closed around
  | .firstKey around, _ => endObject [] .noKey around
  | .nextKey members around, .quoted q => startKey members q around
  | .nextKey members around, .closeObject => endObject members .commaClosed around
  | .nextKey members around, _ => endObject members .noKey around
  | .colon members key around, .colon => .value (.object members key :: around)
  | .colon members key around, _ =>
    .stopped (cut (.broken (.noColon false)) (.object members key :: around))
  | .afterMember members around, .comma => .nextKey members around
  | .afterMember members around, .closeObject => endObject members .closed around
  | .afterMember members around, _ => endObject members .noComma around
  | .complete t, _ => .complete t
  | .stopped t, _ => .stopped t

/-- The tree when the input ends. -/
def finish : Build → Tree
  | .value around => cut (.broken .noValue) around
  | .firstItem around => cut (.list [] .unfinished) around
  | .nextItem items around => cut (.list items.reverse .commaEnd) around
  | .afterItem items around => cut (.list items.reverse .unfinished) around
  | .firstKey around => cut (.object [] .unfinished) around
  | .nextKey members around => cut (.object members.reverse .commaEnd) around
  | .colon members key around => cut (.broken (.noColon true)) (.object members key :: around)
  | .afterMember members around => cut (.object members.reverse .unfinished) around
  | .complete t => t
  | .stopped t => t

/-- Reads tokens up to the end of the outermost value, and says whether something follows it. -/
def run : Build → List Token → Tree × Bool
  | .complete t, ts => (t, !ts.isEmpty)
  | .stopped t, _ => (t, false)
  | b, [] => (b.finish, false)
  | b, t :: ts => run (b.step t) ts

end Build

/-- **The tree of a token sequence**, and whether something follows a complete value. -/
def Tree.ofTokens (ts : List Token) : Tree × Bool := Build.run (.value []) ts

/-- The tree of a text, and whether something follows a complete value. -/
def Tree.ofText (s : String) : Tree × Bool :=
  Tree.ofTokens (Token.scan s.toList)

/-! ## 3. The faults of breaks and endings -/

/-- The fault of a break. -/
def Break.fault : Break → Fault
  | .noValue => .endOfValue
  | .notValue => .expectedValue
  | .word true => .endOfValue
  | .word false => .expectedWord
  | .number true => .endOfValue
  | .number false => .badNumber
  | .noColon true => .endOfObject
  | .noColon false => .expectedColon

/-- The fault of a missing colon, if that is what the tree of a member's value stands for. -/
def Tree.colonFault? : Tree → Option Fault
  | .broken (.noColon atEnd) => some (Break.noColon atEnd).fault
  | _ => none

/-- The fault of a break in a value that is passed over. -/
def Break.faultInSkipped : Break → Fault
  | .number _ => .badNumber
  | b => b.fault

/-- The fault of a list's ending. -/
def ListEnd.fault? : ListEnd → Option Fault
  | .closed => none
  | .unfinished => some .endOfList
  | .commaClosed => some .trailingComma
  | .commaEnd => some .endOfValue
  | .noComma => some .expectedCommaOrBracket

/-- The fault of a list's ending in a value that is passed over. -/
def ListEnd.faultInSkipped? : ListEnd → Option Fault
  | .commaClosed => some .expectedValue
  | e => e.fault?

/-- The fault of the ending of a list whose items are all that was wanted of it. -/
def ListEnd.faultWhenFull? : ListEnd → Option Fault
  | .closed => none
  | .unfinished => some .endOfList
  | .commaClosed => some .trailingComma
  | .commaEnd | .noComma => some .trailingCharacters

/-- The fault of an object's ending. -/
def ObjectEnd.fault? : ObjectEnd → Option Fault
  | .closed => none
  | .unfinished => some .endOfObject
  | .commaClosed => some .trailingComma
  | .commaEnd => some .endOfValue
  | .noComma => some .expectedCommaOrBrace
  | .noKey => some .keyNotText

/-- The fault of an object's ending in a value that is passed over. -/
def ObjectEnd.faultInSkipped? : ObjectEnd → Option Fault
  | .commaClosed => some .keyNotText
  | .commaEnd => some .endOfObject
  | e => e.fault?

end BoxOffice.Json
