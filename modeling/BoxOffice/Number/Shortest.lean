import BoxOffice.Number.Binary64

/-!
# The shortest decimal of a double

A decimal `d · 10 ^ p` reads back as a double if it lies in the interval of the reals that round to
it: between the middles towards its two neighbours, ends included exactly if `m` is even.
`shortest` walks from coarse to fine powers of ten and tries the two multiples of each power next
to the value. The first power with a hit wins; of two hits the nearer one wins, and `tie` says
which one of two equally near ones does.

All comparisons are of natural numbers: the value and the ends of the interval are counted in
quarters of `2 ^ q`, and both sides are multiplied up until no power is negative.
-/

namespace BoxOffice.Number

/-- Which of two equally near decimals is taken. -/
inductive Tie where
  | up
  | toEven
  deriving DecidableEq, Repr

/-- A decimal `digits · 10 ^ power`. -/
structure Decimal where
  digits : Nat
  power : Int
  deriving DecidableEq, Repr

namespace Dyadic

/-- The value, in quarters of `2 ^ q`. -/
def centre (x : Dyadic) : Nat := 4 * x.m

/-- The lower end of the interval, in quarters of `2 ^ q`. -/
def low (x : Dyadic) : Nat := if x.narrowBelow then 4 * x.m - 1 else 4 * x.m - 2

/-- The upper end of the interval, in quarters of `2 ^ q`. -/
def high (x : Dyadic) : Nat := 4 * x.m + 2

/-- The ends belong to the interval. -/
def closedEnds (x : Dyadic) : Bool := x.m % 2 == 0

/-- The factor that multiplies counts of `2 ^ (q - 2)` when they are compared with counts of
    `10 ^ p`. -/
def quarterScale (x : Dyadic) (p : Int) : Nat :=
  Nat.pow 2 (x.q - 2).toNat * Nat.pow 10 (-p).toNat

/-- The factor that multiplies counts of `10 ^ p` when they are compared with counts of
    `2 ^ (q - 2)`. -/
def gridScale (x : Dyadic) (p : Int) : Nat :=
  Nat.pow 10 p.toNat * Nat.pow 2 (2 - x.q).toNat

/-- `d · 10 ^ p` reads back as the double. -/
def reads (x : Dyadic) (p : Int) (d : Nat) : Bool :=
  let v := d * x.gridScale p
  let lo := x.low * x.quarterScale p
  let hi := x.high * x.quarterScale p
  if x.closedEnds then decide (lo ≤ v) && decide (v ≤ hi) else decide (lo < v) && decide (v < hi)

/-- The multiple of `10 ^ p` next to the value that reads back as the double and is nearest to it,
    if one of the two does. -/
def onGrid (x : Dyadic) (tie : Tie) (p : Int) : Option Nat :=
  let v := x.centre * x.quarterScale p
  let g := x.gridScale p
  let d := v / g
  let below := v - d * g
  let above := (d + 1) * g - v
  match x.reads p d, x.reads p (d + 1) with
  | false, false => none
  | true, false => some d
  | false, true => some (d + 1)
  | true, true =>
    if below < above then some d
    else if above < below then some (d + 1)
    else match tie with
      | .up => some (d + 1)
      | .toEven => if d % 2 = 0 then some d else some (d + 1)

/-- A power of ten that exceeds the value: `2 ^ k ≤ 10 ^ topPower` for the bit length `k`. -/
def topPower (x : Dyadic) : Int := ((x.q + x.m.log2 + 1) * 30103) / 100000 + 1

/-- The first hit on the grids `10 ^ p`, `10 ^ (p - 1)`, … -/
def search (x : Dyadic) (tie : Tie) : Nat → Int → Decimal
  | 0, p => ⟨0, p⟩
  | n + 1, p =>
    match x.onGrid tie p with
    | some d => ⟨d, p⟩
    | none => search x tie n (p - 1)

/-- **The shortest decimal that reads back as the double**, zero for zero. Twenty-two grids reach
    from above the value to its seventeenth digit. -/
def shortest (x : Dyadic) (tie : Tie) : Decimal :=
  if x.m = 0 then ⟨0, 0⟩ else x.search tie 22 x.topPower

/-- Zero is written as zero. -/
@[simp] theorem shortest_zero (q : Int) (b : Bool) (tie : Tie) :
    shortest ⟨0, q, b⟩ tie = ⟨0, 0⟩ := rfl

end Dyadic

end BoxOffice.Number
