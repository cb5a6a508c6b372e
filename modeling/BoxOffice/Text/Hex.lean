/-!
# Hexadecimal digits

* `hexValue? n` -- the value of the digit with the code point `n`, in either case;
* `upperHexDigit d`, `lowerHexDigit d` -- the digit of a number below 16.

* `hexValue?_upperHexDigit`, `hexValue?_lowerHexDigit` -- a written digit reads back.
-/

namespace BoxOffice.Text

/-- The value of a hexadecimal digit of either case, given by its code point. -/
def hexValue? (n : Nat) : Option Nat :=
  if 0x30 ≤ n ∧ n ≤ 0x39 then some (n - 0x30)
  else if 0x41 ≤ n ∧ n ≤ 0x46 then some (n - 0x37)
  else if 0x61 ≤ n ∧ n ≤ 0x66 then some (n - 0x57)
  else none

/-- The upper-case digit of a number below 16. -/
def upperHexDigit (d : Nat) : Char := Char.ofNat (if d < 10 then 0x30 + d else 0x37 + d)

/-- The lower-case digit of a number below 16. -/
def lowerHexDigit (d : Nat) : Char := Char.ofNat (if d < 10 then 0x30 + d else 0x57 + d)

/-- An upper-case digit reads back. -/
theorem hexValue?_upperHexDigit : ∀ d < 16, hexValue? (upperHexDigit d).toNat = some d := by
  decide

/-- A lower-case digit reads back. -/
theorem hexValue?_lowerHexDigit : ∀ d < 16, hexValue? (lowerHexDigit d).toNat = some d := by
  decide

end BoxOffice.Text
