import BoxOffice.Number.Shortest
import BoxOffice.Proofs.Number.Digits
import BoxOffice.Proofs.Number.Sum

/-!
# How great a shortest decimal is

* `reads_of_onGrid`, `reads_of_search` -- what `shortest` finds reads back as the double, by its own test;
* `le_of_reads` -- so it lies below the upper end of the double's interval;
* `exponent_shortest` -- a double below `10 ^ 16` by far is written without an exponent, or it is
  small.
-/

namespace BoxOffice.Number

namespace Dyadic

variable {x : Dyadic} {tie : Tie} {p : Int} {d : Nat}

/-- A hit on a grid reads back. -/
theorem reads_of_onGrid (h : x.onGrid tie p = some d) : x.reads p d = true := by
  unfold onGrid at h
  simp only at h
  split at h
  · cases h
  · next below _ =>
    cases h
    exact below
  · next _ above =>
    cases h
    exact above
  · next below above =>
    split at h
    · cases h
      exact below
    · split at h
      · cases h
        exact above
      · split at h
        · cases h
          exact above
        · split at h
          · cases h
            exact below
          · cases h
            exact above

/-- The search ends with a hit, or with nothing. -/
theorem reads_of_search : ∀ (n : Nat) (p : Int), (x.search tie n p).digits = 0 ∨
    x.reads (x.search tie n p).power (x.search tie n p).digits = true
  | 0, _ => Or.inl rfl
  | n + 1, p => by
    unfold search
    split
    · next d hit => exact Or.inr (reads_of_onGrid hit)
    · exact reads_of_search n (p - 1)

/-- What reads back lies below the upper end of the interval. -/
theorem le_of_reads (h : x.reads p d = true) :
    d * x.gridScale p ≤ (4 * x.m + 2) * x.quarterScale p := by
  unfold reads at h
  simp only at h
  split at h
  · rw [Bool.and_eq_true, decide_eq_true_eq, decide_eq_true_eq] at h
    exact h.2
  · rw [Bool.and_eq_true, decide_eq_true_eq, decide_eq_true_eq] at h
    exact Nat.le_of_lt h.2

end Dyadic

/-- A number of `n` digits is at least the power of ten with `n - 1` zeros. -/
theorem pow_length_le {d : Nat} (pos : 0 < d) : 10 ^ ((natDigits d).length - 1) ≤ d := by
  by_cases one : (natDigits d).length - 1 = 0
  · rw [one]
    exact pos
  · refine Nat.le_of_not_lt fun less => ?_
    have short := (Nat.length_toDigits_le_iff (by decide) (Nat.pos_of_ne_zero one)).mpr less
    have same : (natDigits d).length = (Nat.toDigits 10 d).length := rfl
    omega

/-- A decimal with its first digit at `10 ^ n` or before it is at least `10 ^ n`. -/
theorem pow_le_of_exponent {d n : Nat} {p : Int} (pos : 0 < d)
    (h : (n : Int) ≤ p + (natDigits d).length - 1) : 10 ^ n * 10 ^ (-p).toNat ≤ d * 10 ^ p.toNat := by
  have digits : 0 < (natDigits d).length := List.length_pos_iff.mpr (natDigits_ne_nil d)
  calc 10 ^ n * 10 ^ (-p).toNat = 10 ^ (n + (-p).toNat) := (Nat.pow_add 10 n _).symm
    _ ≤ 10 ^ ((natDigits d).length - 1 + p.toNat) := Nat.pow_le_pow_right (by decide) (by omega)
    _ = 10 ^ ((natDigits d).length - 1) * 10 ^ p.toNat := Nat.pow_add 10 _ _
    _ ≤ d * 10 ^ p.toNat := Nat.mul_le_mul_right _ (pow_length_le pos)

/-- The comparison of a decimal with the interval of a double, in units. -/
theorem scaled_le {x : Dyadic} {d n t B : Nat} {p : Int} (nonzero : x.m ≠ 0) (low : -1074 ≤ x.q)
    (le : units x.m x.q ≤ B) (ht : t = 1076) (great : 10 ^ n * 10 ^ (-p).toNat ≤ d * 10 ^ p.toNat)
    (upper : d * x.gridScale p ≤ (4 * x.m + 2) * x.quarterScale p) : 10 ^ n * 2 ^ t ≤ 6 * B := by
  have quarters : 10 ^ n * 2 ^ (2 - x.q).toNat ≤ (4 * x.m + 2) * 2 ^ (x.q - 2).toNat := by
    refine Nat.le_of_mul_le_mul_right ?_ (Nat.pow_pos (n := (-p).toNat) (show 0 < 10 by decide))
    calc 10 ^ n * 2 ^ (2 - x.q).toNat * 10 ^ (-p).toNat
        = 10 ^ n * 10 ^ (-p).toNat * 2 ^ (2 - x.q).toNat := Nat.mul_right_comm _ _ _
      _ ≤ d * 10 ^ p.toNat * 2 ^ (2 - x.q).toNat := Nat.mul_le_mul_right _ great
      _ = d * x.gridScale p := Nat.mul_assoc _ _ _
      _ ≤ (4 * x.m + 2) * x.quarterScale p := upper
      _ = (4 * x.m + 2) * 2 ^ (x.q - 2).toNat * 10 ^ (-p).toNat := (Nat.mul_assoc _ _ _).symm
  have exponents : (2 - x.q).toNat + (x.q + 1074).toNat = t + (x.q - 2).toNat := by omega
  have sixfold : 4 * x.m + 2 ≤ 6 * x.m := by omega
  refine Nat.le_of_mul_le_mul_right ?_ (Nat.two_pow_pos (x.q - 2).toNat)
  calc 10 ^ n * 2 ^ t * 2 ^ (x.q - 2).toNat
      = 10 ^ n * 2 ^ (2 - x.q).toNat * 2 ^ (x.q + 1074).toNat := by
        rw [Nat.mul_assoc, ← Nat.pow_add, ← exponents, Nat.pow_add, ← Nat.mul_assoc]
    _ ≤ (4 * x.m + 2) * 2 ^ (x.q - 2).toNat * 2 ^ (x.q + 1074).toNat := Nat.mul_le_mul_right _ quarters
    _ ≤ 6 * x.m * 2 ^ (x.q - 2).toNat * 2 ^ (x.q + 1074).toNat :=
        Nat.mul_le_mul_right _ (Nat.mul_le_mul_right _ sixfold)
    _ = 6 * units x.m x.q * 2 ^ (x.q - 2).toNat := by rw [units]; ac_rfl
    _ ≤ 6 * B * 2 ^ (x.q - 2).toNat := Nat.mul_le_mul_right _ (Nat.mul_le_mul_left 6 le)

/-- **The shortest decimal of a double below a bound has its first digit below `10 ^ n`.** -/
theorem exponent_shortest {x : Dyadic} {n t B : Nat} (low : -1074 ≤ x.q) (le : units x.m x.q ≤ B)
    (ht : t = 1076) (hB : 6 * B < 10 ^ n * 2 ^ t) (tie : Tie) :
    (x.shortest tie).digits = 0 ∨
      (x.shortest tie).power + (natDigits (x.shortest tie).digits).length - 1 < n := by
  unfold Dyadic.shortest
  split
  · exact Or.inl rfl
  · next nonzero =>
    obtain zero | reads := @Dyadic.reads_of_search x tie 22 x.topPower
    · exact Or.inl zero
    · generalize x.search tie 22 x.topPower = c at reads
      by_cases some_digit : c.digits = 0
      · exact Or.inl some_digit
      · refine Or.inr (Int.lt_of_not_ge fun great => Nat.lt_irrefl _ (Nat.lt_of_le_of_lt ?_ hB))
        have decimal := pow_le_of_exponent (Nat.pos_of_ne_zero some_digit) great
        exact scaled_le nonzero low le ht decimal (Dyadic.le_of_reads reads)

end BoxOffice.Number
