/-!
# The value of a binary64 number

A double is a NaN, an infinity, or `± m · 2 ^ q` with natural `m` and integer `q`:

* `Binary64.ofFloat x` -- the parts of `x`, read off its 64 bits;
* `Dyadic` -- a magnitude `m · 2 ^ q`, and whether the doubles below it lie closer than those above.
-/

namespace BoxOffice.Number

/-- The magnitude `m · 2 ^ q` of a double. `narrowBelow` says that the next double below is half as
    far away as the next one above. -/
structure Dyadic where
  m : Nat
  q : Int
  narrowBelow : Bool
  deriving DecidableEq, Repr

/-- What a double stands for. -/
inductive Binary64 where
  | nan
  | infinite (negative : Bool)
  | finite (negative : Bool) (magnitude : Dyadic)
  deriving DecidableEq, Repr

/-- The bit in front of a fraction of 52 bits. -/
def leadingBit : Nat := 0x10000000000000

/-- The magnitude with the biased exponent `e` and the fraction bits `f`. -/
def Dyadic.ofFields (e f : Nat) : Dyadic :=
  if e = 0 then ⟨f, -1074, false⟩
  else ⟨leadingBit + f, (e : Int) - 1075, f == 0 && decide (1 < e)⟩

/-- **The parts of a double.** -/
def Binary64.ofFloat (x : Float) : Binary64 :=
  let bits := x.toBits.toNat
  let negative := decide (0x8000000000000000 ≤ bits)
  let e := bits / leadingBit % 0x800
  let f := bits % leadingBit
  if e = 2047 then
    if f = 0 then .infinite negative else .nan
  else .finite negative (.ofFields e f)

end BoxOffice.Number
