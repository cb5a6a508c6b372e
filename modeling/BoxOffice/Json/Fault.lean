import BoxOffice.Number.Bounded
import BoxOffice.Number.FloatStyle
import BoxOffice.Text.Literal

/-!
# What can be wrong with a JSON text

* `Fault` -- the causes for which a text is no JSON, or is JSON of the wrong shape; reading goes
  from left to right, and the first fault that is met is reported;
* `Fault.isShape` -- the text read so far is JSON, but not of the shape that was wanted;
* `Problem` -- a fault with the place in the value where it arose;
* `floatStyle` -- how JSON writes a double: positionally from `10 ^ -5` on and below `10 ^ 16`, with at
  least one digit after the point, else with a signed exponent.
-/

namespace BoxOffice.Json

open BoxOffice.Number

/-! ## 1. The written form of a double -/

/-- How JSON writes a double; equally near shortest decimals go to the even digit. -/
def floatStyle : FloatStyle := ⟨.toEven, some (-5, 16), true, true, "null", "null"⟩

/-- A double in JSON; what is not finite is null. -/
def writeFloat (x : Float) : List Char :=
  match Binary64.ofFloat x with
  | .finite negative d => floatStyle.writeParts (.finite negative d)
  | _ => ['n', 'u', 'l', 'l']

/-! ## 2. Faults -/

/-- What a value was found to be. -/
inductive Seen where
  | null
  | boolean (b : Bool)
  | integer (n : Int)
  | float (x : Float)
  | text (s : String)
  | list
  | object
  deriving DecidableEq, Repr

/-- What a value was wanted to be. -/
inductive Wanted where
  | int64
  | uint32
  | uint64
  | float64
  | text
  | list
  | unit
  | record (title : String)
  deriving DecidableEq, Repr

/-- The causes for which reading fails. -/
inductive Fault where
  -- the text ends too early
  | endOfValue
  | endOfList
  | endOfObject
  | endOfText
  -- the text is no JSON
  | expectedValue
  | expectedWord
  | expectedColon
  | expectedCommaOrBracket
  | expectedCommaOrBrace
  | trailingComma
  | trailingCharacters
  | keyNotText
  | controlCharacter
  | badEscape
  | loneSurrogate
  | unfinishedSurrogate
  | badNumber
  | numberOutOfRange
  | tooDeep
  -- the text is JSON of another shape
  | wrongKind (seen : Seen) (wanted : Wanted)
  | outOfBounds (n : Int) (wanted : Wanted)
  | wrongLength (n : Nat) (title : String) (fields : Nat)
  | unknownVariant (name first second : String)
  | missingField (name : String)
  | duplicateField (name : String)
  deriving DecidableEq, Repr

/-- The words for what was found. -/
def Seen.words : Seen → String
  | .null => "null"
  | .boolean true => "boolean `true`"
  | .boolean false => "boolean `false`"
  | .integer n => "integer `" ++ String.ofList (intDigits n) ++ "`"
  | .float x => "floating point `" ++ String.ofList (floatStyle.write x) ++ "`"
  | .text s => "string " ++ Text.literal s
  | .list => "sequence"
  | .object => "map"

/-- The words for what was wanted. -/
def Wanted.words : Wanted → String
  | .int64 => "i64"
  | .uint32 => "u32"
  | .uint64 => "u64"
  | .float64 => "f64"
  | .text => "a string"
  | .list => "a sequence"
  | .unit => "unit"
  | .record title => "struct " ++ title

/-- The wording of a fault, without the line and the column where it was met. -/
def Fault.message : Fault → String
  | .endOfValue => "EOF while parsing a value"
  | .endOfList => "EOF while parsing a list"
  | .endOfObject => "EOF while parsing an object"
  | .endOfText => "EOF while parsing a string"
  | .expectedValue => "expected value"
  | .expectedWord => "expected ident"
  | .expectedColon => "expected `:`"
  | .expectedCommaOrBracket => "expected `,` or `]`"
  | .expectedCommaOrBrace => r"expected `,` or `}`"
  | .trailingComma => "trailing comma"
  | .trailingCharacters => "trailing characters"
  | .keyNotText => "key must be a string"
  | .controlCharacter => "control character (\\u0000-\\u001F) found while parsing a string"
  | .badEscape => "invalid escape"
  | .loneSurrogate => "lone leading surrogate in hex escape"
  | .unfinishedSurrogate => "unexpected end of hex escape"
  | .badNumber => "invalid number"
  | .numberOutOfRange => "number out of range"
  | .tooDeep => "recursion limit exceeded"
  | .wrongKind seen wanted => "invalid type: " ++ seen.words ++ ", expected " ++ wanted.words
  | .outOfBounds n wanted =>
    "invalid value: integer `" ++ String.ofList (intDigits n) ++ "`, expected " ++ wanted.words
  | .wrongLength n title fields =>
    "invalid length " ++ String.ofList (natDigits n) ++ ", expected struct " ++ title ++ " with "
      ++ String.ofList (natDigits fields) ++ " elements"
  | .unknownVariant name first second =>
    "unknown variant `" ++ name ++ "`, expected `" ++ first ++ "` or `" ++ second ++ "`"
  | .missingField name => "missing field `" ++ name ++ "`"
  | .duplicateField name => "duplicate field `" ++ name ++ "`"

/-- What was read so far is JSON, but of another shape than wanted. -/
def Fault.isShape : Fault → Bool
  | .wrongKind .. | .outOfBounds .. | .wrongLength .. | .unknownVariant .. | .missingField ..
  | .duplicateField .. => true
  | _ => false

/-! ## 3. Faults with their place -/

/-- A step into a value: to the member of an object, or to the item of a list. -/
inductive Step where
  | member (name : String)
  | item (index : Nat)
  deriving DecidableEq, Repr

/-- A fault, and the steps from the outermost value to where it arose. -/
structure Problem where
  path : List Step
  fault : Fault
  deriving DecidableEq, Repr

/-- The steps of a path after a first one: members after a point, items in brackets. -/
def Step.following : Step → String
  | .member name => "." ++ name
  | .item i => "[" ++ String.ofList (natDigits i) ++ "]"

/-- A path in words. -/
def pathWords : List Step → String
  | [] => ""
  | .member name :: steps => name ++ String.join (steps.map Step.following)
  | .item i :: steps =>
    "[" ++ String.ofList (natDigits i) ++ "]" ++ String.join (steps.map Step.following)

/-- A problem in words: the path, if there is one, then the fault. -/
def Problem.message (p : Problem) : String :=
  match p.path with
  | [] => p.fault.message
  | path => pathWords path ++ ": " ++ p.fault.message

/-- A fault of the value itself. -/
def Problem.here (f : Fault) : Problem := ⟨[], f⟩

/-- The problem, seen from one step further out. -/
def Problem.under (s : Step) (p : Problem) : Problem := ⟨s :: p.path, p.fault⟩

/-- A result, its problem seen from one step further out. -/
def under {α : Type} (s : Step) (r : Except Problem α) : Except Problem α :=
  r.mapError (·.under s)

/-- A result of which only the fault is known, as a fault of the value itself. -/
def here {α : Type} (r : Except Fault α) : Except Problem α := r.mapError .here

end BoxOffice.Json
