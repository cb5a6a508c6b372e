import BoxOffice.Json.Fault

/-!
# Numbers in JSON texts

A `Numeral` is a well-formed number as it is written: sign, digits before the point, digits after
it, exponent. `Numeral.amount` is its value:

* without fraction and exponent, an integer of 64 bits (signed or unsigned) stands for itself;
* every other numeral is a double, found by scaling a *significand*: the digits, fraction included,
  are taken up from the left as long as they fit 64 unsigned bits; digits of the whole part that
  no longer fit count one power of ten each, and what is left of the fraction is passed over. The
  significand is rounded to a double, and that is multiplied or divided by a power of ten with a
  second rounding (by several, one after the other, below `10 ^ -308`).

The two roundings make the value differ from the nearest double now and then.
-/

namespace BoxOffice.Json

/-- A number as it is written; digits are given by their values. -/
structure Numeral where
  negative : Bool
  whole : List Nat
  /-- the digits after the point; empty if there is no point -/
  fraction : List Nat
  /-- the sign of the exponent (`true` is minus) and its digits -/
  exponent : Option (Bool × List Nat)
  deriving DecidableEq, Repr

/-- The value of a numeral. -/
inductive Amount where
  | integer (n : Int)
  | float (x : Float)
  deriving DecidableEq, Repr

namespace Numeral

/-- Takes up digits after a number already read while the result is at most `limit`; gives the
    number and the digits left over. -/
def absorb (limit : Nat) (n : Nat) : List Nat → Nat × List Nat
  | [] => (n, [])
  | d :: ds => if 10 * n + d ≤ limit then absorb limit (10 * n + d) ds else (n, d :: ds)

/-- The greatest significand. -/
def significandLimit : Nat := 0xFFFFFFFFFFFFFFFF

/-- The greatest exponent that is read. -/
def exponentLimit : Nat := 0x7FFFFFFF

/-- A double divided by `10 ^ n`, in steps of at most 308 powers. -/
def scaleDown (x : Float) (n : Nat) : Float :=
  if n ≤ 308 then x / Float.ofScientific 1 false n
  else if x == 0 then x
  else scaleDown (x / 1e308) (n - 308)
termination_by n

/-- A double multiplied by `10 ^ e`, unless the result is no double. -/
def scale (x : Float) : Int → Except Fault Float
  | .ofNat n =>
    if n ≤ 308 then
      let y := x * Float.ofScientific 1 false n
      if y.isInf then .error .numberOutOfRange else .ok y
    else if x == 0 then .ok x
    else .error .numberOutOfRange
  | .negSucc n => .ok (scaleDown x (n + 1))

/-- The double `± s · 10 ^ e`. -/
def ofParts (negative : Bool) (s : Nat) (e : Int) : Except Fault Float :=
  (scale (Float.ofNat s) e).map fun x => if negative then -x else x

/-- The double of a numeral whose significand is `s` and whose digits leave the power `e`. -/
def withExponent (n : Numeral) (s : Nat) (e : Int) : Except Fault Float :=
  match n.exponent with
  | none => ofParts n.negative s e
  | some (down, ds) =>
    match absorb exponentLimit 0 ds with
    | (k, []) => ofParts n.negative s (if down then e - k else e + k)
    | _ =>
      if s ≠ 0 ∧ down = false then .error .numberOutOfRange
      else .ok (if n.negative then -0.0 else 0.0)

/-- The double of a numeral. -/
def toFloat (n : Numeral) : Except Fault Float :=
  let (s, overflow) := absorb significandLimit 0 n.whole
  let (s', rest) := absorb significandLimit s n.fraction
  n.withExponent s' ((overflow.length : Int) - (n.fraction.length - rest.length : Nat))

/-- The greatest amount below zero that 64 signed bits hold. -/
def negativeLimit : Nat := 0x8000000000000000

/-- The integer of a numeral, if it is written as one and fits 64 bits. A negative zero does not. -/
def toInteger? (n : Numeral) : Option Int :=
  match n.fraction, n.exponent, absorb significandLimit 0 n.whole with
  | [], none, (s, []) =>
    if n.negative then (if s = 0 ∨ negativeLimit < s then none else some (-(s : Int))) else some s
  | _, _, _ => none

/-- **The value of a numeral.** -/
def amount (n : Numeral) : Except Fault Amount :=
  match n.toInteger? with
  | some k => .ok (.integer k)
  | none => n.toFloat.map .float

end Numeral

/-- The double that an amount stands for. -/
def Amount.toFloat : Amount → Float
  | .integer n => Float.ofInt n
  | .float x => x

end BoxOffice.Json
