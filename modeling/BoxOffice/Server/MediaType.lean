import BoxOffice.Text.Trim

/-!
# Media types

`MediaType.parse? s` reads a media type with its parameters, such as
`application/vnd.api+json; charset=utf-8`:

* type and subtype are tokens with a slash between them, compared in lower case; a plus sign inside the
  subtype divides it from its suffix, the last one counts;
* parameters follow a semicolon, `name=value`, the value a token or between quotation marks. A value
  may be empty only without marks, and only spaces may stand before a name and after a closing mark.

`isJson s` -- the text is a media type of JSON: `application/json` or `application/…+json`.
-/

namespace BoxOffice.Server

/-- A media type; its parameters were checked and are not kept. -/
structure MediaType where
  main : String
  sub : String
  suffix : Option String
  deriving DecidableEq, Repr

namespace MediaType

/-! ## 1. Characters -/

/-- The marks that a token may hold besides letters and digits. -/
def tokenMarks : List Char :=
  ['!', '#', '$', '%', '&', '\'', '*', '+', '-', '.', '^', '_', '\x60', '|', '~']

/-- The character may stand in a token. -/
def isTokenChar (c : Char) : Bool := c.isAlphanum || tokenMarks.contains c

/-- The character may stand between quotation marks. -/
def isQuotedChar (c : Char) : Bool := decide (' ' ≤ c) && decide (c < '\x7f')

/-! ## 2. Parameters -/

/-- What a parameter list is in the middle of. The flags say that the part has begun. -/
inductive State where
  /-- a name -/
  | name (begun : Bool)
  /-- a value without marks -/
  | value (begun : Bool)
  /-- a value between marks -/
  | quoted (begun : Bool)
  /-- the spaces after a closing mark -/
  | closed
  deriving DecidableEq, Repr

/-- Reads one character of a parameter list. -/
def State.next : State → Char → Option State
  | .name false, ' ' => some (.name false)
  | .name true, '=' => some (.value false)
  | .name _, c => if isTokenChar c then some (.name true) else none
  | .value false, '"' => some (.quoted false)
  | .value true, ';' => some (.name false)
  | .value _, c => if isTokenChar c then some (.value true) else none
  | .quoted true, '"' => some .closed
  | .quoted _, c => if isQuotedChar c then some (.quoted true) else none
  | .closed, ';' => some (.name false)
  | .closed, ' ' => some .closed
  | .closed, _ => none

/-- A parameter list may end here. -/
def State.mayEnd : State → Bool
  | .name begun => !begun
  | .value _ => true
  | .quoted _ => false
  | .closed => true

/-- The rest of a parameter list is well-formed. -/
def parametersOk (st : State) : List Char → Bool
  | [] => st.mayEnd
  | c :: cs =>
    match st.next c with
    | some st' => parametersOk st' cs
    | none => false

/-! ## 3. Media types -/

/-- A subtype and its suffix: what follows its last plus sign, unless that is its first character. -/
def divideSubtype (cs : List Char) : List Char × Option (List Char) :=
  match cs.reverse.span (· != '+') with
  | (_, []) => (cs, none)
  | (_, [_]) => (cs, none)
  | (suffix, _ :: before) => (before.reverse, some suffix.reverse)

/-- A part in lower case. -/
def lowered (cs : List Char) : String := String.ofList (cs.map Char.toLower)

/-- **Reads a media type.** -/
def parse? (s : String) : Option MediaType :=
  match Text.cutAt '/' s.toList with
  | (_, none) => none
  | (main, some rest) =>
    let (sub, parameters) := Text.cutAt ';' rest
    let parametersFine := match parameters with
      | none => true
      | some cs => !sub.isEmpty && parametersOk (.name false) cs
    if !main.isEmpty && main.all isTokenChar && sub.all isTokenChar && parametersFine then
      let (name, suffix) := divideSubtype sub
      some ⟨lowered main, lowered name, suffix.map lowered⟩
    else none

/-- The media type is one of JSON. -/
def isJsonType (m : MediaType) : Bool :=
  m.main == "application" && (m.sub == "json" || m.suffix == some "json")

end MediaType

/-- **The text is a media type of JSON.** -/
def isJson (s : String) : Bool := (MediaType.parse? s).any MediaType.isJsonType

end BoxOffice.Server
