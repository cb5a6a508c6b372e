import BoxOffice.Json.Fault
import BoxOffice.Text.Hex
import BoxOffice.Text.Utf8

/-!
# Texts in JSON texts

A `Quoted` is what follows an opening quotation mark: its pieces, and how it ends. Whether the
escapes make sense together (surrogates come in pairs) is not asked when it is cut out but when it
is read:

* `Quoted.scan cs` -- cuts a quoted text out of the characters after its opening mark;
* `Quoted.read q` -- the text that it stands for;
* `Quoted.skip q` -- passes over it, which asks for its end and its escapes only.
-/

namespace BoxOffice.Json

/-- A piece of a quoted text: a character, or a unit of 16 bits given by its number. -/
inductive Piece where
  | char (c : Char)
  | unit (n : Nat)
  deriving DecidableEq, Repr

/-- How a quoted text ends. Only `closed` lets anything follow. -/
inductive QuotedEnd where
  /-- at its closing mark -/
  | closed
  /-- where the input ends -/
  | endOfInput
  /-- at a control character -/
  | control
  /-- at a backslash before a character that makes no escape with it -/
  | unknownEscape
  /-- at a numeric escape without four hexadecimal digits -/
  | badDigits
  deriving DecidableEq, Repr

/-- What follows an opening quotation mark. -/
structure Quoted where
  pieces : List Piece
  ending : QuotedEnd
  deriving DecidableEq, Repr

namespace Quoted

/-! ## 1. Cutting out -/

/-- The character that a backslash makes with the character after it. -/
def escaped? : Char → Option Char
  | '"' => some '"'
  | '\\' => some '\\'
  | '/' => some '/'
  | 'b' => some '\x08'
  | 'f' => some '\x0c'
  | 'n' => some '\n'
  | 'r' => some '\r'
  | 't' => some '\t'
  | _ => none

/-- The number that four hexadecimal digits write. -/
def unit? (a b c d : Char) : Option Nat := do
  let w ← Text.hexValue? a.toNat
  let x ← Text.hexValue? b.toNat
  let y ← Text.hexValue? c.toNat
  let z ← Text.hexValue? d.toNat
  return w * 0x1000 + x * 0x100 + y * 0x10 + z

/-- How a numeric escape fails that fewer than four characters follow: the input ends there, unless
    these characters make up four bytes all the same. -/
def shortUnitEnd (cs : List Char) : QuotedEnd :=
  if (Utf8.encode cs).length < 4 then .endOfInput else .badDigits

/-- The quoted text with one more piece in front. -/
def cons (p : Piece) (q : Quoted) : Quoted := ⟨p :: q.pieces, q.ending⟩

/-- **The quoted text at the start of `cs`**, and the characters after it. -/
def scan : List Char → Quoted × List Char
  | [] => (⟨[], .endOfInput⟩, [])
  | '"' :: cs => (⟨[], .closed⟩, cs)
  | '\\' :: 'u' :: a :: b :: c :: d :: cs =>
    match unit? a b c d with
    | some n => ((scan cs).1.cons (.unit n), (scan cs).2)
    | none => (⟨[], .badDigits⟩, cs)
  | '\\' :: 'u' :: cs => (⟨[], shortUnitEnd cs⟩, cs)
  | '\\' :: e :: cs =>
    match escaped? e with
    | some c => ((scan cs).1.cons (.char c), (scan cs).2)
    | none => (⟨[], .unknownEscape⟩, cs)
  | '\\' :: [] => (⟨[], .endOfInput⟩, [])
  | c :: cs =>
    if c < ' ' then (⟨[], .control⟩, cs) else ((scan cs).1.cons (.char c), (scan cs).2)

/-- Cutting out gives no characters back. -/
theorem scan_length_le (cs : List Char) : (scan cs).2.length ≤ cs.length := by
  fun_induction scan cs <;> simp_all only [List.length_cons, List.length_nil] <;> omega

/-! ## 2. Reading -/

/-- A unit that begins a pair. -/
def isHigh (n : Nat) : Bool := decide (0xD800 ≤ n) && decide (n ≤ 0xDBFF)

/-- A unit that ends a pair. -/
def isLow (n : Nat) : Bool := decide (0xDC00 ≤ n) && decide (n ≤ 0xDFFF)

/-- The character of a pair of units. -/
def pairChar (hi lo : Nat) : Char := Char.ofNat ((hi - 0xD800) * 0x400 + (lo - 0xDC00) + 0x10000)

/-- The fault of an ending, if it is one. -/
def endFault? : QuotedEnd → Option Fault
  | .closed => none
  | .endOfInput => some .endOfText
  | .control => some .controlCharacter
  | .unknownEscape | .badDigits => some .badEscape

/-- The fault of an ending right after a unit that begins a pair. -/
def endAfterHigh : QuotedEnd → Fault
  | .endOfInput => .endOfText
  | .badDigits => .badEscape
  | .closed | .control | .unknownEscape => .unfinishedSurrogate

/-- The characters that pieces stand for. -/
def readPieces (ending : QuotedEnd) : List Piece → Except Fault (List Char)
  | [] =>
    match endFault? ending with
    | none => .ok []
    | some f => .error f
  | .char c :: ps => (readPieces ending ps).map (c :: ·)
  | .unit n :: ps =>
    if isLow n then .error .loneSurrogate
    else if isHigh n then
      match ps with
      | .unit m :: qs =>
        if isLow m then (readPieces ending qs).map (pairChar n m :: ·) else .error .loneSurrogate
      | .char _ :: _ => .error .unfinishedSurrogate
      | [] => .error (endAfterHigh ending)
    else (readPieces ending ps).map (Char.ofNat n :: ·)

/-- **The text that a quoted text stands for.** -/
def read (q : Quoted) : Except Fault String := (readPieces q.ending q.pieces).map String.ofList

/-- Passing over a quoted text. -/
def skip (q : Quoted) : Except Fault Unit :=
  match endFault? q.ending with
  | none => .ok ()
  | some f => .error f

/-- The quoted text ends at its closing mark. -/
def isClosed (q : Quoted) : Bool := q.ending == .closed

/-- A mapped reading that succeeds comes from one that does. -/
theorem exists_ok_of_map {α β : Type} {f : α → β} {r : Except Fault α} {b : β}
    (h : r.map f = .ok b) : ∃ a, r = .ok a := by
  cases r with
  | error e => cases h
  | ok a => exact ⟨a, rfl⟩

/-- Pieces that end at a fault have no reading. -/
theorem readPieces_ne_ok {e : QuotedEnd} {f : Fault} (he : endFault? e = some f)
    (ps : List Piece) : ∀ cs, readPieces e ps ≠ .ok cs := by
  fun_induction readPieces e ps with
  | case1 hn => rw [hn] at he; cases he
  | case2 | case4 | case6 | case7 | case8 => intro cs h; cases h
  | case3 _ _ ih | case5 _ _ _ _ _ _ ih | case9 _ _ _ _ ih =>
    intro cs h
    obtain ⟨_, h⟩ := exists_ok_of_map h
    exact ih _ h

/-- What can be read can be passed over. -/
theorem skip_of_read {q : Quoted} {s : String} (h : q.read = .ok s) : q.skip = .ok () := by
  unfold skip
  split
  · rfl
  · next f he =>
    unfold read at h
    cases hr : readPieces q.ending q.pieces with
    | error g => rw [hr] at h; cases h
    | ok cs => exact absurd hr (readPieces_ne_ok he _ _)

end Quoted

end BoxOffice.Json
