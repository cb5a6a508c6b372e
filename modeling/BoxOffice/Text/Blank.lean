import BoxOffice.Text.Trim

/-!
# White space

* `isBlank c` -- `c` is one of the 25 characters with the property White_Space;
* `isAllBlank s` -- the text holds white space only (the empty text does);
* `trimBlank s` -- the text without the white space around it.
-/

namespace BoxOffice.Text

/-- The code points with the property White_Space, as ranges. -/
def blankRanges : List (Nat × Nat) :=
  [(0x0009, 0x000D), (0x0020, 0x0020), (0x0085, 0x0085), (0x00A0, 0x00A0), (0x1680, 0x1680),
   (0x2000, 0x200A), (0x2028, 0x2029), (0x202F, 0x202F), (0x205F, 0x205F), (0x3000, 0x3000)]

/-- Some range of the list holds the code point. -/
def inRanges (ranges : List (Nat × Nat)) (n : Nat) : Bool :=
  ranges.any fun r => decide (r.1 ≤ n) && decide (n ≤ r.2)

/-- The character is white space. -/
def isBlank (c : Char) : Bool := inRanges blankRanges c.toNat

/-- The text holds white space only. -/
def isAllBlank (s : String) : Bool := s.toList.all isBlank

/-- The text without the white space around it. -/
def trimBlank (s : String) : List Char := trimBoth isBlank s.toList

end BoxOffice.Text
