import BoxOffice.Text.Percent
import BoxOffice.Text.Trim
import BoxOffice.Text.Utf8

/-!
# Form-encoded pairs

The text form of a list of name-value pairs, as it stands after the question mark of a request
target:

* `Form.encode pairs` -- pairs joined by `&`, name and value by `=`; letters, digits and `*-._`
  stand for themselves, a space is written `+`, every other byte as a percent escape;
* `Form.decode text` -- the pairs of a text: empty pieces between `&` are passed over, the first
  `=` of a piece divides it, a piece without one has the empty value, and bytes that are no UTF-8
  read as U+FFFD.
-/

namespace BoxOffice.Form

open BoxOffice.Text

/-! ## 1. Encoding -/

/-- The byte stands for itself: a letter, a digit, or one of `*-._`. -/
def isPlain (b : UInt8) : Bool :=
  let n := b.toNat
  decide (0x61 ≤ n ∧ n ≤ 0x7A) || decide (0x41 ≤ n ∧ n ≤ 0x5A) || decide (0x30 ≤ n ∧ n ≤ 0x39)
    || n == 0x2A || n == 0x2D || n == 0x2E || n == 0x5F

/-- One byte of a name or value. -/
def encodeByte (b : UInt8) : List Char :=
  if isPlain b then [Char.ofNat b.toNat]
  else if b = 0x20 then ['+']
  else Percent.escape b

/-- A name or a value. -/
def encodeText (s : String) : List Char := (Utf8.encode s.toList).flatMap encodeByte

/-- One pair. -/
def encodePair (p : String × String) : List Char := encodeText p.1 ++ '=' :: encodeText p.2

/-- A list of pairs, as characters. -/
def encodeChars : List (String × String) → List Char
  | [] => []
  | [p] => encodePair p
  | p :: q :: ps => encodePair p ++ '&' :: encodeChars (q :: ps)

/-- **A list of pairs as text.** -/
def encode (ps : List (String × String)) : String := String.ofList (encodeChars ps)

/-! ## 2. Decoding -/

/-- A plus sign stands for a space. -/
def plusToSpace (c : Char) : Char := if c = '+' then ' ' else c

/-- The name or value behind its written form. -/
def decodeText (cs : List Char) : String :=
  String.ofList (Utf8.decodeLossy (Percent.decode (Utf8.encode (cs.map plusToSpace))))

/-- The pair behind one piece. -/
def decodePiece (cs : List Char) : String × String :=
  let (name, value) := cutAt '=' cs
  (decodeText name, decodeText (value.getD []))

/-- **The pairs of a text**, in their order. -/
def decode (s : String) : List (String × String) :=
  ((splitOn '&' s.toList).filter (! ·.isEmpty)).map decodePiece

@[simp] theorem encode_nil : encode [] = "" := rfl

@[simp] theorem decode_empty : decode "" = [] := rfl

end BoxOffice.Form
