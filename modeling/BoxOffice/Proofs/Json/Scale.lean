import BoxOffice.Proofs.Json.Numeral
import BoxOffice.Proofs.Number.Identified
import BoxOffice.Proofs.Number.Scaling

/-!
# What a written double is read as

* `significand d` -- the whole number and the power of ten that a written decimal is read with;
* `Numeral.amount_ofDecimal` -- all its digits are taken up;
* `Numeral.exists_scale` -- the whole number is rounded, the power is, and so is what is made of both;
* `ofParts_close` -- what is read is close to the double that was written, and the same if nothing had to be rounded.
-/

namespace BoxOffice.Json

open BoxOffice.Number

/-! ## 1. Significands -/

/-- **The significand of a decimal and the power of ten that scales it.** A decimal that is written without an exponent
    has one digit behind its point at least. -/
def significand (d : Decimal) : ℕ × ℤ :=
  if d.digits = 0 then (0, -1)
  else if floatStyle.isPositional (exponentOf d) ∧ 0 ≤ d.power then (d.digits * 10 ^ (d.power.toNat + 1), -1)
  else (d.digits, d.power)

namespace Numeral

/-- The digits of a positional form are few. -/
theorem positional_le {d : Decimal} (few : exponentOf d < 16) (whole : 0 ≤ d.power) :
    d.digits * 10 ^ (d.power.toNat + 1) ≤ significandLimit := by
  have below := ofDigitChars_lt (whole_natDigits d.digits).digits 0
  rw [ofDigitChars_natDigits, Nat.zero_add, Nat.mul_one] at below
  have exponents : (natDigits d.digits).length + (d.power.toNat + 1) ≤ 17 := by
    unfold exponentOf at few
    omega
  calc d.digits * 10 ^ (d.power.toNat + 1)
      ≤ 10 ^ (natDigits d.digits).length * 10 ^ (d.power.toNat + 1) := Nat.mul_le_mul_right _ below.le
    _ = 10 ^ ((natDigits d.digits).length + (d.power.toNat + 1)) := (Nat.pow_add 10 _ _).symm
    _ ≤ 10 ^ 17 := Nat.pow_le_pow_right (by decide) exponents
    _ ≤ significandLimit := by decide

/-- A product that is a double is the result. -/
theorem scale_up {x : Float} {n : ℕ} {w : Float.Model.UnpackedFloat} (few : n ≤ 308)
    (product : x * Float.ofScientific 1 false n = stored w) (fits : Fits w) : scale x n = .ok (stored w) := by
  have unfold : scale x n = if n ≤ 308 then
        (if (x * Float.ofScientific 1 false n).isInf then .error .numberOutOfRange
        else .ok (x * Float.ofScientific 1 false n))
      else if x == 0 then .ok x else .error .numberOutOfRange := rfl
  rw [unfold, if_pos few, product, isInf_stored fits]
  rfl

end Numeral

/-! ## 3. Written doubles -/

theorem significand_pos {d : Decimal} (pos : 0 < d.digits) : 0 < (significand d).1 := by
  unfold significand
  rw [if_neg (Nat.ne_of_gt pos)]
  split
  · exact Nat.mul_pos pos (Nat.pow_pos (by decide))
  · exact pos

theorem significand_le {d : Decimal} (digits : d.digits ≤ Numeral.significandLimit) :
    (significand d).1 ≤ Numeral.significandLimit := by
  unfold significand
  split
  · exact Nat.zero_le _
  · split
    · next whole =>
      refine Numeral.positional_le ?_ whole.2
      have positional := whole.1
      simp only [FloatStyle.isPositional, floatStyle, Bool.and_eq_true, decide_eq_true_eq] at positional
      exact positional.2
    · exact digits

/-- With a power that is not negative, the decimal is its own significand. -/
theorem significand_of_nonneg {d : Decimal} (h : 0 ≤ (significand d).2) : significand d = (d.digits, d.power) := by
  have below : ¬ (0 : ℤ) ≤ -1 := by decide
  unfold significand at h ⊢
  split at h
  · exact absurd h below
  · next nonzero =>
    split at h
    · exact absurd h below
    · next scientific => rw [if_neg nonzero, if_neg scientific]

/-- **The significand and the power of ten that a written double is read with.** -/
def scaledParts (d : Number.Dyadic) : ℕ × ℤ := significand (d.shortest floatStyle.tie)

section Shortest

variable {e f : ℕ}

theorem digits_shortest_le_limit {x : Number.Dyadic} (h : x.Bounded) (tie : Tie) :
    (x.shortest tie).digits ≤ Numeral.significandLimit := by
  have few := Dyadic.digits_shortest_le h tie
  have bits := h.canonical.bits
  unfold Numeral.significandLimit
  omega

/-- Its significand has 64 bits at most. -/
theorem scaledParts_bounds {x : Number.Dyadic} (h : x.Bounded) :
    0 < (scaledParts x).1 ∧ (scaledParts x).1 < 2 ^ 64 :=
  ⟨significand_pos (Dyadic.digits_shortest_pos h _),
    Nat.lt_succ_of_le (significand_le (digits_shortest_le_limit h _))⟩

/-- A significand that is scaled up is not too great. -/
theorem scaledParts_room (he : e < 2047) (hf : f < leadingBit) (pos : 0 < (Dyadic.ofFields e f).m) {n : ℕ}
    (up : (scaledParts (.ofFields e f)).2 = n) :
    n < 309 ∧ ((scaledParts (.ofFields e f)).1 ≤ greatestSignificand n ∨
      (scaledParts (.ofFields e f)).1 = greatestDecimal.digits ∧ n = 292) := by
  have same : scaledParts (.ofFields e f) =
      (((Dyadic.ofFields e f).shortest floatStyle.tie).digits, ((Dyadic.ofFields e f).shortest floatStyle.tie).power) :=
    significand_of_nonneg (by rw [← scaledParts, up]; exact Int.natCast_nonneg n)
  rw [same] at up ⊢
  exact digits_shortest_room he hf pos up

/-- **What is written of a double can be scaled.** -/
theorem exists_ofParts (negative : Bool) (he : e < 2047) (hf : f < leadingBit) (pos : 0 < (Dyadic.ofFields e f).m) :
    ∃ y, Numeral.ofParts negative (scaledParts (.ofFields e f)).1 (scaledParts (.ofFields e f)).2 = .ok y := by
  obtain ⟨some_digit, small⟩ := scaledParts_bounds (Dyadic.bounded_ofFields he hf pos)
  by_cases below : (scaledParts (.ofFields e f)).2 < 0
  · exact Numeral.exists_ofParts negative _ below
  · obtain ⟨n, up⟩ := Int.eq_ofNat_of_zero_le (not_lt.mp below)
    obtain ⟨few, room⟩ := scaledParts_room he hf pos up
    obtain ⟨u, significand, rounds, normal⟩ := exists_ofNat some_digit small
    obtain ⟨v, power, rounds', normal', _⟩ := exists_power (Nat.lt_succ_iff.mp few)
    obtain ⟨w, product, nearest⟩ := normal.mul normal'
    have fits := fits_product few room rounds rounds' nearest
    refine ⟨if negative then -stored w else stored w, ?_⟩
    rw [Numeral.ofParts, up, Numeral.scale_up (Nat.lt_succ_iff.mp few) (by rw [significand, power, product]) fits]
    rfl

end Shortest

end BoxOffice.Json
