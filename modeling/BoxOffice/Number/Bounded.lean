/-!
# Reading integers within bounds

A decimal integer is an optional sign and one or more ASCII digits; the digits are added up from
the left, and the first that is no digit or leads out of the bounds decides the fault:

* `Bounds` -- the least and the greatest value of a type of integers;
* `Bounds.read b cs` -- the integer that `cs` writes, or why there is none. A minus sign is only
  read where the bounds reach below zero; there is at most one sign, and a sign alone is no number.
-/

namespace BoxOffice.Number

/-- Why a text is not an integer within its bounds. -/
inductive IntegerFault where
  | empty
  | badDigit
  | tooLarge
  | tooSmall
  deriving DecidableEq, Repr

/-- The wording of the fault. -/
def IntegerFault.message : IntegerFault → String
  | .empty => "cannot parse integer from empty string"
  | .badDigit => "invalid digit found in string"
  | .tooLarge => "number too large to fit in target type"
  | .tooSmall => "number too small to fit in target type"

/-- A range of integers around zero: from `-down` to `up`. -/
structure Bounds where
  down : Nat
  up : Nat
  deriving DecidableEq, Repr

namespace Bounds

/-- The signed words of 64 bits. -/
def int64 : Bounds := ⟨0x8000000000000000, 0x7FFFFFFFFFFFFFFF⟩

/-- The unsigned words of 64 bits. -/
def uint64 : Bounds := ⟨0, 0xFFFFFFFFFFFFFFFF⟩

/-- The unsigned words of 32 bits. -/
def uint32 : Bounds := ⟨0, 0xFFFFFFFF⟩

/-- The unsigned words of 16 bits. -/
def uint16 : Bounds := ⟨0, 0xFFFF⟩

end Bounds

/-- The value of an ASCII digit. -/
def digit? (c : Char) : Option Nat :=
  if '0'.toNat ≤ c.toNat ∧ c.toNat ≤ '9'.toNat then some (c.toNat - '0'.toNat) else none

/-- The number that digits write after a number `n` already read, as long as it is at most `limit`;
    `excess` is the fault of exceeding it. -/
def readDigits (limit : Nat) (excess : IntegerFault) (n : Nat) :
    List Char → Except IntegerFault Nat
  | [] => .ok n
  | c :: cs =>
    match digit? c with
    | none => .error .badDigit
    | some d =>
      if 10 * n + d ≤ limit then readDigits limit excess (10 * n + d) cs else .error excess

/-- The number that one or more digits write. -/
def readNatural (limit : Nat) (excess : IntegerFault) : List Char → Except IntegerFault Nat
  | [] => .error .badDigit
  | cs => readDigits limit excess 0 cs

/-- **The integer that a text writes**, within the bounds. -/
def Bounds.read (b : Bounds) : List Char → Except IntegerFault Int
  | [] => .error .empty
  | '+' :: cs => (readNatural b.up .tooLarge cs).map Int.ofNat
  | '-' :: cs =>
    if b.down = 0 then .error .badDigit
    else (readNatural b.down .tooSmall cs).map fun n => -Int.ofNat n
  | cs => (readNatural b.up .tooLarge cs).map Int.ofNat

/-- The decimal digits of a natural number. -/
def natDigits (n : Nat) : List Char := Nat.toDigits 10 n

/-- The decimal form of an integer, with a minus sign below zero. -/
def intDigits : Int → List Char
  | .ofNat n => natDigits n
  | .negSucc n => '-' :: natDigits (n + 1)

end BoxOffice.Number
