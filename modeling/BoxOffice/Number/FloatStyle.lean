import BoxOffice.Number.Shortest

/-!
# How a double is written

The digits of a double are those of its shortest decimal. A `FloatStyle` decides the rest: where
the point stands, when the exponent is written, and the words for what is not finite.

* `FloatStyle.write s x` -- the text of `x` in the style `s`.

With the shortest decimal `d.ddd · 10 ^ e`, the positional form is taken if `e` lies in the style's
range (always, if it has none), else the form with an exponent.
-/

namespace BoxOffice.Number

/-- The decisions of a written form. -/
structure FloatStyle where
  /-- which one of two equally near shortest decimals is taken -/
  tie : Tie
  /-- the exponents written positionally, first included, last not; all if `none` -/
  positional : Option (Int × Int)
  /-- a whole number in positional form ends in `.0` -/
  wholePoint : Bool
  /-- a positive exponent has a plus sign -/
  exponentPlus : Bool
  /-- the word for a NaN -/
  nan : String
  /-- the word for an infinity, without its sign -/
  infinity : String
  deriving Repr

namespace FloatStyle

/-- The exponent `e` is written positionally. -/
def isPositional (s : FloatStyle) (e : Int) : Bool :=
  match s.positional with
  | none => true
  | some (first, last) => decide (first ≤ e) && decide (e < last)

/-- The digits `ds`, of which `point` stand before the decimal point; `point` may be negative or
    exceed their number. -/
def placePoint (s : FloatStyle) (ds : List Char) (point : Int) : List Char :=
  if point ≤ 0 then '0' :: '.' :: List.replicate (-point).toNat '0' ++ ds
  else if (ds.length : Int) ≤ point then
    ds ++ List.replicate (point.toNat - ds.length) '0' ++ (if s.wholePoint then ['.', '0'] else [])
  else ds.take point.toNat ++ '.' :: ds.drop point.toNat

/-- The digits `ds` with one before the point, and the exponent `e`. -/
def withExponent (s : FloatStyle) (ds : List Char) (e : Int) : List Char :=
  let mantissa := match ds with
    | [d] => [d]
    | d :: rest => d :: '.' :: rest
    | [] => []
  let sign := if e < 0 then ['-'] else if s.exponentPlus then ['+'] else []
  mantissa ++ 'e' :: sign ++ Nat.toDigits 10 e.natAbs

/-- A decimal in the style, without its sign. -/
def writeDecimal (s : FloatStyle) (d : Decimal) : List Char :=
  if d.digits = 0 then '0' :: (if s.wholePoint then ['.', '0'] else [])
  else
    let ds := Nat.toDigits 10 d.digits
    let e := d.power + ds.length - 1
    if s.isPositional e then s.placePoint ds (e + 1) else s.withExponent ds e

/-- The parts of a double in the style. -/
def writeParts (s : FloatStyle) : Binary64 → List Char
  | .nan => s.nan.toList
  | .infinite negative => (if negative then ['-'] else []) ++ s.infinity.toList
  | .finite negative x => (if negative then ['-'] else []) ++ s.writeDecimal (x.shortest s.tie)

/-- **A double as text in the style.** -/
def write (s : FloatStyle) (x : Float) : List Char := s.writeParts (.ofFloat x)

/-- Plain decimals: always positional, whole numbers without a point. -/
def plain : FloatStyle := ⟨.up, none, false, false, "NaN", "inf"⟩

end FloatStyle

end BoxOffice.Number
