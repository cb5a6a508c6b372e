import BoxOffice.Text.Hex

/-!
# Percent escapes

`Percent.decode bytes` replaces each percent sign that two hexadecimal digits follow by the byte
that they name; a percent sign without them stands for itself. `Percent.escape b` is the escape
of one byte, with upper-case digits.
-/

namespace BoxOffice.Percent

open BoxOffice.Text

/-- The byte that a percent sign begins, given the two bytes after it. -/
def escaped? (a b : UInt8) : Option UInt8 := do
  let x ← hexValue? a.toNat
  let y ← hexValue? b.toNat
  return .ofNat (16 * x + y)

/-- The bytes that stand behind a byte sequence with percent escapes. -/
def decode : List UInt8 → List UInt8
  | p :: a :: b :: rest =>
    if p = 0x25 then
      match escaped? a b with
      | some x => x :: decode rest
      | none => p :: decode (a :: b :: rest)
    else p :: decode (a :: b :: rest)
  | p :: rest => p :: decode rest
  | [] => []

/-- The escape of a byte. -/
def escape (b : UInt8) : List Char :=
  ['%', upperHexDigit (b.toNat / 16), upperHexDigit (b.toNat % 16)]

end BoxOffice.Percent
