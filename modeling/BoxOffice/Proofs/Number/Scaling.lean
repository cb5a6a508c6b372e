import BoxOffice.Proofs.Number.Identified

/-!
# Products and quotients of doubles

* `rounds_mul`, `rounds_div` -- a product and a quotient are rounded to the double next to the exact one;
* `exists_ofScientific` -- so is `m · 10 ^ e`;
* `mul_error_le`, `div_error_le` -- how far off the results are if the operands were rounded, too;
* `fits_product` -- a significand that leaves room for its power of ten can be scaled with it.
-/

namespace BoxOffice.Number

open Float.Model (UnpackedFloat Format totalExponent)
open Float.Model.UnpackedFloat

/-! ## 1. The operations -/

variable {s₁ s₂ : Sign} {m₁ m₂ : ℕ} {e₁ e₂ : ℤ}

/-- **A product is rounded to the nearest double.** -/
theorem rounds_mul (p₁ : 0 < m₁) (p₂ : 0 < m₂) (bits : 2 ^ 52 ≤ m₁) :
    Rounds (s₁ * s₂) (m₁ * 2 ^ e₁ * (m₂ * 2 ^ e₂))
      (UnpackedFloat.mul Format.binary64 (.finite s₁ m₁ e₁ p₁) (.finite s₂ m₂ e₂ p₂)) := by
  have value : (m₁ * 2 ^ e₁ * (m₂ * 2 ^ e₂) : ℚ) = (m₁ * m₂ : ℕ) * 2 ^ (e₁ + e₂) := by
    rw [two_zpow_add]
    push_cast
    ring
  have pos : 0 < m₁ * m₂ := Nat.mul_pos p₁ p₂
  have unit := two_zpow_pos (e₁ + e₂)
  have product : UnpackedFloat.mul Format.binary64 (.finite s₁ m₁ e₁ p₁) (.finite s₂ m₂ e₂ p₂) =
      roundWithAccuracy Format.binary64 (s₁ * s₂) (m₁ * m₂) (e₁ + e₂) .exact := rfl
  rw [value, product]
  obtain ⟨t, place⟩ := exists_ulp (mul_pos (Nat.cast_pos.mpr pos) unit)
  refine rounds_roundWithAccuracy place ?_ (place.ge_of_le ?_)
  · rw [mul_div_cancel_right₀ _ unit.ne']
    exact .exact _
  · have enough : 2 ^ 52 ≤ m₁ * m₂ := Nat.le_trans bits (Nat.le_mul_of_pos_right m₁ p₂)
    rw [add_comm (e₁ + e₂), two_zpow_add]
    refine mul_le_mul_of_nonneg_right ?_ unit.le
    exact_mod_cast enough

/-- The bits of a quotient. -/
theorem two_zpow_le_quotient (p₁ : 0 < m₁) (p₂ : 0 < m₂) :
    (2 : ℚ) ^ ((m₁.log2 : ℤ) + e₁ - (m₂.log2 + 1 + e₂)) ≤ m₁ * 2 ^ e₁ / (m₂ * 2 ^ e₂) := by
  have low : (2 : ℚ) ^ (m₁.log2 : ℤ) ≤ m₁ := by
    rw [zpow_natCast]
    exact_mod_cast Nat.log2_self_le (Nat.ne_of_gt p₁)
  have high : (m₂ : ℚ) ≤ 2 ^ ((m₂.log2 : ℤ) + 1) := by
    have bits : m₂ ≤ 2 ^ (m₂.log2 + 1) := Nat.le_of_lt Nat.lt_log2_self
    exact_mod_cast bits
  have pos : (0 : ℚ) < m₂ * 2 ^ e₂ := mul_pos (Nat.cast_pos.mpr p₂) (two_zpow_pos e₂)
  rw [le_div_iff₀ pos]
  calc (2 : ℚ) ^ ((m₁.log2 : ℤ) + e₁ - (m₂.log2 + 1 + e₂)) * (m₂ * 2 ^ e₂)
      ≤ 2 ^ ((m₁.log2 : ℤ) + e₁ - (m₂.log2 + 1 + e₂)) * (2 ^ ((m₂.log2 : ℤ) + 1) * 2 ^ e₂) := by gcongr
    _ = 2 ^ (m₁.log2 : ℤ) * 2 ^ e₁ := by
      rw [← two_zpow_add, ← two_zpow_add, ← two_zpow_add]
      congr 1
      ring
    _ ≤ m₁ * 2 ^ e₁ := by gcongr

/-- **So is a quotient.** -/
theorem rounds_div (p₁ : 0 < m₁) (p₂ : 0 < m₂) :
    Rounds (s₁ / s₂) (m₁ * 2 ^ e₁ / (m₂ * 2 ^ e₂))
      (UnpackedFloat.div Format.binary64 (.finite s₁ m₁ e₁ p₁) (.finite s₂ m₂ e₂ p₂)) := by
  obtain ⟨goal, hgoal⟩ : ∃ goal : ℤ,
    goal = Format.binary64.targetExponent (totalExponent m₁ e₁ - totalExponent m₂ e₂) := ⟨_, rfl⟩
  obtain ⟨k, hk⟩ : ∃ k : ℕ, k = (e₁ - e₂ - min (e₁ - e₂) goal).toNat := ⟨_, rfl⟩
  have shifted : min (e₁ - e₂) goal + k = e₁ - e₂ := by omega
  have quotient : UnpackedFloat.div Format.binary64 (.finite s₁ m₁ e₁ p₁) (.finite s₂ m₂ e₂ p₂) =
      roundWithAccuracy Format.binary64 (s₁ / s₂) (m₁ <<< k / m₂) (min (e₁ - e₂) goal)
        (accuracyOfFraction (m₁ <<< k % m₂) m₂) := by
    rw [hk, hgoal]
    rfl
  have pos₁ : (0 : ℚ) < m₁ * 2 ^ e₁ := mul_pos (Nat.cast_pos.mpr p₁) (two_zpow_pos e₁)
  have pos₂ : (0 : ℚ) < m₂ * 2 ^ e₂ := mul_pos (Nat.cast_pos.mpr p₂) (two_zpow_pos e₂)
  obtain ⟨t, place⟩ := exists_ulp (div_pos pos₁ pos₂)
  have enough : goal ≤ t := by
    have least := place.least
    have bits := @two_zpow_le_quotient m₁ m₂ e₁ e₂ p₁ p₂
    have atLeast := place.ge_of_le (q := (m₁.log2 : ℤ) + e₁ - (m₂.log2 + 1 + e₂) - 52) (by rwa [sub_add_cancel])
    have mantissa : (Format.binary64.mantissaBits : ℤ) = 53 := rfl
    have lowest : Format.binary64.minExponent = -1074 := rfl
    rw [hgoal, Format.targetExponent, totalExponent, totalExponent, mantissa, lowest]
    omega
  rw [quotient]
  refine rounds_roundWithAccuracy place ?_ (le_trans (min_le_right _ _) enough)
  have value : (m₁ * 2 ^ e₁ / (m₂ * 2 ^ e₂) / 2 ^ min (e₁ - e₂) goal : ℚ) = ((m₁ <<< k : ℕ) : ℚ) / m₂ := by
    have exponents : (2 : ℚ) ^ e₁ = 2 ^ min (e₁ - e₂) goal * 2 ^ k * 2 ^ e₂ := by
      rw [← zpow_natCast, ← two_zpow_add, shifted, ← two_zpow_add, sub_add_cancel]
    have unit := (two_zpow_pos (min (e₁ - e₂) goal)).ne'
    have unit₂ := (two_zpow_pos e₂).ne'
    have nonzero : (m₂ : ℚ) ≠ 0 := (Nat.cast_pos.mpr p₂).ne'
    rw [Nat.shiftLeft_eq, exponents]
    push_cast
    field_simp
  rw [value]
  exact .quotient _ p₂

/-- A mantissa of any size is rounded to the nearest double. -/
theorem rounds_round {s : Sign} {m : ℕ} {e : ℤ} (pos : 0 < m) :
    Rounds s (m * 2 ^ e) (UnpackedFloat.round Format.binary64 s m e) := by
  obtain ⟨k, hk⟩ : ∃ k : ℕ, k = (e - goal m e).toNat := ⟨_, rfl⟩
  have unfold : UnpackedFloat.round Format.binary64 s m e =
      roundWithAccuracy Format.binary64 s (m <<< k) (e - k) .exact := by
    rw [hk]
    rfl
  obtain ⟨t, place⟩ := exists_ulp (mul_pos (Nat.cast_pos.mpr pos) (two_zpow_pos e))
  have low : (2 : ℚ) ^ ((m.log2 : ℤ) + e) ≤ m * 2 ^ e := by
    rw [two_zpow_add, zpow_natCast]
    refine mul_le_mul_of_nonneg_right ?_ (two_zpow_pos e).le
    exact_mod_cast Nat.log2_self_le (Nat.ne_of_gt pos)
  have enough := place.ge_of_le (q := (m.log2 : ℤ) + e - 52) (by rwa [sub_add_cancel])
  have least := place.least
  have le : goal m e ≤ t := by
    rw [goal_eq]
    omega
  rw [unfold]
  refine rounds_roundWithAccuracy place ?_ (by omega)
  have value : (m * 2 ^ e / 2 ^ (e - k) : ℚ) = (m <<< k : ℕ) := by
    have exponents : (2 : ℚ) ^ e = 2 ^ k * 2 ^ (e - k) := by
      rw [← zpow_natCast, ← two_zpow_add, add_sub_cancel]
    rw [exponents, Nat.shiftLeft_eq, ← mul_assoc, mul_div_cancel_right₀ _ (two_zpow_pos _).ne']
    push_cast
    rfl
  rw [value]
  exact .exact _

/-! ## 2. Normal doubles -/

/-- The number is a double above zero with all the bits of its mantissa. -/
def Normal (u : UnpackedFloat) : Prop := ∃ m e p, u = .finite .positive m e p ∧ 2 ^ 52 ≤ m ∧ Fits u

/-- A number is below the middle behind the greatest double if it has at most a thousand bits. -/
theorem lt_greatest {x : ℚ} {k : ℤ} (few : k ≤ 1000) (h : x < 2 ^ k) : x < (2 ^ 54 - 1) * 2 ^ (970 : ℤ) := by
  refine lt_of_lt_of_le h (le_trans (two_zpow_le (show k ≤ 53 + 970 by omega)) ?_)
  rw [two_zpow_add]
  refine mul_le_mul_of_nonneg_right ?_ (two_zpow_pos _).le
  norm_num

theorem two_zpow_le_of_one_le {x : ℚ} (one : 1 ≤ x) : (2 : ℚ) ^ (-1021 : ℤ) ≤ x :=
  le_trans (zpow_le_one_of_nonpos₀ one_le_two (by decide)) one

theorem Rounds.normal_of_fits {x : ℚ} {u : UnpackedFloat} (h : Rounds .positive x u)
    (normal : (2 : ℚ) ^ (-1021 : ℤ) ≤ x) (fits : Fits u) : Normal u := by
  obtain ⟨m, e, p, number, bits⟩ := h.exists_finite normal
  exact ⟨m, e, p, number, bits, fits⟩

theorem Rounds.normal {x : ℚ} {u : UnpackedFloat} (h : Rounds .positive x u) (normal : (2 : ℚ) ^ (-1021 : ℤ) ≤ x)
    (below : x < (2 ^ 54 - 1) * 2 ^ (970 : ℤ)) : Normal u :=
  h.normal_of_fits normal (h.fits below)

namespace Normal

variable {u v : UnpackedFloat}

theorem fits : Normal u → Fits u
  | ⟨_, _, _, _, _, fits⟩ => fits

/-- **The product of two doubles is the double next to the exact product.** -/
theorem mul (hu : Normal u) (hv : Normal v) : ∃ w, stored u * stored v = stored w ∧
    Rounds .positive (magnitude u * magnitude v) w := by
  obtain ⟨m, e, p, rfl, bits, _⟩ := id hu
  obtain ⟨n, f, q, rfl, _, _⟩ := id hv
  exact ⟨_, stored_mul hu.fits hv.fits, @rounds_mul .positive .positive m n e f p q bits⟩

/-- **So is the quotient.** -/
theorem div (hu : Normal u) (hv : Normal v) : ∃ w, stored u / stored v = stored w ∧
    Rounds .positive (magnitude u / magnitude v) w := by
  obtain ⟨m, e, p, rfl, _, _⟩ := id hu
  obtain ⟨n, f, q, rfl, _, _⟩ := id hv
  exact ⟨_, stored_div hu.fits hv.fits, @rounds_div .positive .positive m n e f p q⟩

end Normal

/-! ## 3. Powers of ten -/

/-- A normal double that is the number `n`. -/
def standsFor (n : ℕ) : Binary64 → Bool
  | .finite false d => decide (2 ^ 52 ≤ d.m) && decide (-1074 ≤ d.q) && units d.m d.q == units n 0
  | .finite true _ | .infinite _ | .nan => false

/-- The powers of ten up to the twenty-second are doubles. -/
theorem standsFor_power : ∀ e : Fin 23,
    standsFor (10 ^ e.val) (Binary64.ofFloat Float.exactlyRepresentablePowersOfTen[e]) = true := by
  decide +kernel

theorem cast_units {m : ℕ} {e : ℤ} (least : -1074 ≤ e) : (units m e : ℚ) = m * 2 ^ e * 2 ^ (1074 : ℤ) := by
  have exponent : (2 : ℚ) ^ (e + 1074).toNat = 2 ^ e * 2 ^ (1074 : ℤ) := by
    rw [← two_zpow_add, ← zpow_natCast, Int.toNat_of_nonneg (by omega)]
  rw [units, Nat.cast_mul, Nat.cast_pow, Nat.cast_two, exponent, mul_assoc]

/-- The number that such a double stores. -/
theorem exists_of_standsFor {n : ℕ} {x : Float} (h : standsFor n (Binary64.ofFloat x) = true) :
    ∃ u, x = stored u ∧ Normal u ∧ magnitude u = n := by
  cases parts : Binary64.ofFloat x with
  | nan =>
    rw [parts] at h
    cases h
  | infinite negative =>
    rw [parts] at h
    cases h
  | finite negative d =>
    rw [parts] at h
    cases negative with
    | true => cases h
    | false =>
      obtain ⟨e, f, he, hf, rfl, rfl⟩ := eq_stored parts
      rw [standsFor, Bool.and_eq_true, Bool.and_eq_true, decide_eq_true_eq, decide_eq_true_eq, beq_iff_eq] at h
      obtain ⟨⟨bits, least⟩, same⟩ := h
      have value : ((Dyadic.ofFields e f).m * 2 ^ (Dyadic.ofFields e f).q : ℚ) = n := by
        have same : (units (Dyadic.ofFields e f).m (Dyadic.ofFields e f).q : ℚ) = units n 0 := by rw [same]
        rw [cast_units least, cast_units (by omega), zpow_zero, mul_one] at same
        exact mul_right_cancel₀ (two_zpow_pos _).ne' same
      have pos : 0 < (Dyadic.ofFields e f).m := Nat.lt_of_lt_of_le (by decide) bits
      refine ⟨_, rfl, ⟨_, _, pos, ofMagnitude_of_pos _ _ pos, bits, _, e, f, he, hf, rfl⟩, ?_⟩
      rw [ofFields, magnitude_ofMagnitude, value]

/-! ## 4. Decimals -/

/-- A whole number, as it is converted. -/
theorem exists_toFloat {n : ℕ} (pos : 0 < n) (small : n < 2 ^ 64) :
    ∃ u, n.toUInt64.toFloat = stored u ∧ Rounds .positive n u := by
  have number : n.toUInt64.toNat = n := by
    rw [Nat.toUInt64, UInt64.toNat_ofNat']
    exact Nat.mod_eq_of_lt small
  have converted : n.toUInt64.toFloat =
      stored (UnpackedFloat.normalize Format.binary64 ((n.toUInt64.toNat : ℕ) : ℤ) 0 .positive) := rfl
  rw [number, normalize_of_pos pos] at converted
  refine ⟨_, converted, ?_⟩
  have rounds := rounds_round (s := .positive) (e := 0) pos
  rwa [zpow_zero, mul_one] at rounds

/-- Numbers that are both doubles are multiplied. -/
theorem exists_ofScientific_of_few {m e : ℕ} (pos : 0 < m) (fast : m < 2 ^ 53 ∧ e ≤ 22) :
    ∃ u, Float.ofScientific m false e = stored u ∧ Rounds .positive (m * 10 ^ e) u := by
  have listed : e < Float.exactlyRepresentablePowersOfTen.size := Nat.lt_succ_of_le fast.2
  have unfold : Float.ofScientific m false e = m.toUInt64.toFloat * Float.exactlyRepresentablePowersOfTen[e] := by
    rw [Float.ofScientific, dif_pos fast]
    rfl
  obtain ⟨u, converted, rounds⟩ := exists_toFloat pos (Nat.lt_trans fast.1 (by decide))
  obtain ⟨v, power, normal, ten⟩ := exists_of_standsFor (standsFor_power ⟨e, by omega⟩)
  have one : (1 : ℚ) ≤ m := by exact_mod_cast pos
  have bits : (m : ℚ) < 2 ^ (53 : ℤ) := by exact_mod_cast fast.1
  have exact : magnitude u = m := by
    have whole : Rounds .positive (m * 2 ^ (0 : ℤ)) u := by rwa [zpow_zero, mul_one]
    rw [whole.magnitude_eq (by decide) fast.1, zpow_zero, mul_one]
  have whole := rounds.normal (two_zpow_le_of_one_le one) (lt_greatest (by decide) bits)
  obtain ⟨w, product, nearest⟩ := whole.mul normal
  refine ⟨w, ?_, ?_⟩
  · rw [unfold, converted, ← product]
    exact congrArg (stored u * ·) power
  · rw [exact, ten] at nearest
    exact_mod_cast nearest

/-- So are others, before anything is rounded. -/
theorem rounds_ofScientific {m e : ℕ} (pos : 0 < m) (few : e ≤ 2048) :
    Rounds .positive (m * 10 ^ e) (UnpackedFloat.ofScientific Format.binary64 m e) := by
  have shifted : 0 < m <<< 53 := by
    rw [Nat.shiftLeft_eq]
    exact Nat.mul_pos pos (by decide)
  have ten : 0 < 10 ^ e := Nat.pow_pos (by decide)
  have product : UnpackedFloat.ofScientific Format.binary64 m e =
      UnpackedFloat.mul Format.binary64 (.finite .positive (m <<< 53) (-53) shifted)
        (.finite .positive (10 ^ e) 0 ten) := by
    have bits : (2 : ℤ) ^ Format.binary64.exponentBits = 2048 := rfl
    rw [UnpackedFloat.ofScientific, dif_neg (Nat.ne_of_gt pos), bits, if_neg (by omega), if_neg (by omega),
      if_pos (by omega)]
    rfl
  have bits : 2 ^ 52 ≤ m <<< 53 := by
    rw [Nat.shiftLeft_eq]
    omega
  have rounds := @rounds_mul .positive .positive _ _ (-53) 0 shifted ten bits
  have value : ((m <<< 53 : ℕ) : ℚ) * 2 ^ (-53 : ℤ) * ((10 ^ e : ℕ) * 2 ^ (0 : ℤ)) = m * 10 ^ e := by
    rw [Nat.shiftLeft_eq]
    push_cast
    norm_num
    ring
  rw [value] at rounds
  rw [product]
  exact rounds

/-- **A decimal is rounded to the nearest double.** -/
theorem exists_ofScientific {m e : ℕ} (pos : 0 < m) (few : e ≤ 2048) :
    ∃ u, Float.ofScientific m false e = stored u ∧ Rounds .positive (m * 10 ^ e) u := by
  by_cases fast : m < 2 ^ 53 ∧ e ≤ 22
  · exact exists_ofScientific_of_few pos fast
  · refine ⟨_, ?_, rounds_ofScientific pos few⟩
    rw [Float.ofScientific, dif_neg fast]
    rfl

/-! ## 5. Significands and powers -/

/-- The number is a double. -/
def IsDouble (n : ℕ) : Prop := ∃ c k : ℕ, c < 2 ^ 53 ∧ n = c * 2 ^ k

/-- **A significand is rounded once.** -/
theorem exists_ofNat {s : ℕ} (pos : 0 < s) (small : s < 2 ^ 64) :
    ∃ u, Float.ofNat s = stored u ∧ Rounds .positive s u ∧ Normal u := by
  obtain ⟨u, number, rounds⟩ := exists_ofScientific pos (Nat.zero_le 2048)
  rw [pow_zero, mul_one] at rounds
  have bits : (s : ℚ) < 2 ^ (64 : ℤ) := by exact_mod_cast small
  have one : (1 : ℚ) ≤ s := by exact_mod_cast pos
  exact ⟨u, number, rounds, rounds.normal (two_zpow_le_of_one_le one) (lt_greatest (by decide) bits)⟩

/-- A significand that is a double is not changed. -/
theorem IsDouble.magnitude_eq {s : ℕ} (h : IsDouble s) {u : UnpackedFloat} (rounds : Rounds .positive s u) :
    magnitude u = s := by
  obtain ⟨c, k, bits, rfl⟩ := h
  have same : ((c * 2 ^ k : ℕ) : ℚ) = c * 2 ^ (k : ℤ) := by
    rw [zpow_natCast]
    push_cast
    rfl
  rw [same] at rounds ⊢
  exact rounds.magnitude_eq (by omega) bits

theorem isDouble_ten_pow {n : ℕ} (few : n ≤ 22) : IsDouble (10 ^ n) := by
  refine ⟨5 ^ n, n, Nat.lt_of_le_of_lt (Nat.pow_le_pow_right (by decide) few) (by decide), ?_⟩
  rw [← Nat.mul_pow]

/-- A whole number below the middle behind the greatest double. -/
theorem cast_lt_greatest {n : ℕ} (h : n < (2 ^ 54 - 1) * 2 ^ 970) : (n : ℚ) < (2 ^ 54 - 1) * 2 ^ (970 : ℤ) := by
  have cast : ∀ k : ℕ, n < (2 ^ 54 - 1) * 2 ^ k → (n : ℚ) < (2 ^ 54 - 1) * 2 ^ (k : ℤ) := by
    intro k less
    have ones : ((2 ^ 54 - 1 : ℕ) : ℚ) = 2 ^ 54 - 1 := by norm_num
    have unit : ((2 ^ k : ℕ) : ℚ) = 2 ^ (k : ℤ) := by
      rw [zpow_natCast]
      push_cast
      rfl
    rw [← ones, ← unit, ← Nat.cast_mul]
    exact Nat.cast_lt.mpr less
  exact cast 970 h

/-- The powers of ten among the doubles. -/
theorem ten_pow_lt : ∀ n < 309, 10 ^ n < (2 ^ 54 - 1) * 2 ^ 970 := by
  decide +kernel

/-- **So is a power of ten**, and those up to the twenty-second are not changed. -/
theorem exists_power {n : ℕ} (few : n ≤ 308) : ∃ v, Float.ofScientific 1 false n = stored v ∧
    Rounds .positive (10 ^ n) v ∧ Normal v ∧ (n ≤ 22 → magnitude v = 10 ^ n) := by
  obtain ⟨v, number, rounds⟩ := exists_ofScientific Nat.one_pos (le_trans few (by decide))
  rw [Nat.cast_one, one_mul] at rounds
  have below := cast_lt_greatest (ten_pow_lt n (Nat.lt_succ_iff.mpr few))
  rw [Nat.cast_pow] at below
  have one : (1 : ℚ) ≤ 10 ^ n := one_le_pow₀ (by norm_num)
  refine ⟨v, number, rounds, rounds.normal (two_zpow_le_of_one_le one) below, fun exact => ?_⟩
  have value := (isDouble_ten_pow exact).magnitude_eq (u := v) (by exact_mod_cast rounds)
  exact_mod_cast value

/-! ## 6. Errors -/

section Errors

variable {s t z y : ℚ}

end Errors

/-! ## 7. No product is too great -/

/-- Whole numbers at most this great are rounded to at most `(roundedUp x).1 · 2 ^ (roundedUp x).2`. -/
def roundedUp (x : ℕ) : ℕ × ℕ := ((x + 2 ^ (x.log2 - 52) - 1) / 2 ^ (x.log2 - 52), x.log2 - 52)

theorem le_roundedUp (x : ℕ) : x ≤ (roundedUp x).1 * 2 ^ (roundedUp x).2 := by
  have pos := Nat.two_pow_pos (x.log2 - 52)
  have parts := Nat.div_add_mod' (x + 2 ^ (x.log2 - 52) - 1) (2 ^ (x.log2 - 52))
  have rest := Nat.mod_lt (x + 2 ^ (x.log2 - 52) - 1) pos
  show x ≤ (x + 2 ^ (x.log2 - 52) - 1) / 2 ^ (x.log2 - 52) * 2 ^ (x.log2 - 52)
  omega

/-- A number at most this great stays so. -/
theorem Rounds.le_roundedUp {x : ℕ} {y : ℚ} {u : UnpackedFloat} (rounds : Rounds .positive y u) (le : y ≤ x)
    (bits : (roundedUp x).1 < 2 ^ 53) : magnitude u ≤ ((roundedUp x).1 * 2 ^ (roundedUp x).2 : ℕ) := by
  have below : (x : ℚ) ≤ ((roundedUp x).1 * 2 ^ (roundedUp x).2 : ℕ) := by
    exact_mod_cast BoxOffice.Number.le_roundedUp x
  have bound := rounds.magnitude_le (c := (roundedUp x).1) (q := (roundedUp x).2) (by omega) bits
    (le_trans le (by exact_mod_cast below))
  exact_mod_cast bound

/-- The greatest significand that is scaled by `10 ^ n`, that of the greatest double aside. -/
def greatestSignificand (n : ℕ) : ℕ := min ((2 ^ 54 - 3) * 2 ^ 970 / 10 ^ n) ((40 * (2 ^ 53 - 1) + 20) / 3)

/-- The significand of the greatest double, and the power of ten that scales it. -/
def greatestDecimal : Decimal := ⟨17976931348623157, 292⟩

/-- Both factors, rounded up, and their product. -/
def hasRoom (n : ℕ) : Bool :=
  decide ((roundedUp (greatestSignificand n)).1 < 2 ^ 53) && decide ((roundedUp (10 ^ n)).1 < 2 ^ 53) &&
    decide ((roundedUp (greatestSignificand n)).1 * 2 ^ (roundedUp (greatestSignificand n)).2 *
      ((roundedUp (10 ^ n)).1 * 2 ^ (roundedUp (10 ^ n)).2) < (2 ^ 54 - 1) * 2 ^ 970)

theorem hasRoom_of_lt : ∀ n < 309, hasRoom n = true := by
  decide +kernel

theorem magnitude_nonneg : ∀ u : UnpackedFloat, 0 ≤ magnitude u
  | .finite _ m e _ => mul_nonneg (Nat.cast_nonneg m) (two_zpow_pos e).le
  | .zero _ | .infinity _ | .notANumber => le_refl 0

/-- The significand of the greatest double is rounded down, to an even mantissa. -/
theorem magnitude_greatest {u : UnpackedFloat} (rounds : Rounds .positive greatestDecimal.digits u) :
    magnitude u = greatestSignificand 292 := by
  have canonical : Canonical 8988465674311578 1 := ⟨by decide, by decide, by decide, Or.inr (by decide)⟩
  have cell : InCell greatestDecimal.digits 8988465674311578 1 := by
    refine ⟨⟨?_, ?_, fun odd => absurd odd (by decide)⟩, fun power => absurd power (by decide)⟩
    · rw [greatestDecimal]
      norm_num
    · rw [greatestDecimal]
      norm_num
  have value : greatestSignificand 292 = 8988465674311578 * 2 := by decide +kernel
  rw [rounds.eq_of_cell canonical cell, magnitude_ofMagnitude, value]
  norm_num

/-- **No significand is scaled out of the doubles.** -/
theorem fits_product {s n : ℕ} {u v w : UnpackedFloat} (few : n < 309)
    (le : s ≤ greatestSignificand n ∨ s = greatestDecimal.digits ∧ n = 292) (significand : Rounds .positive s u)
    (power : Rounds .positive (10 ^ n) v) (product : Rounds .positive (magnitude u * magnitude v) w) : Fits w := by
  have room := hasRoom_of_lt n few
  rw [hasRoom, Bool.and_eq_true, Bool.and_eq_true, decide_eq_true_eq, decide_eq_true_eq, decide_eq_true_eq] at room
  obtain ⟨⟨bits, bits'⟩, room⟩ := room
  have first : magnitude u ≤
      ((roundedUp (greatestSignificand n)).1 * 2 ^ (roundedUp (greatestSignificand n)).2 : ℕ) := by
    rcases le with le | ⟨rfl, rfl⟩
    · exact significand.le_roundedUp (by exact_mod_cast le) bits
    · rw [magnitude_greatest significand]
      exact_mod_cast le_roundedUp (greatestSignificand 292)
  have second := power.le_roundedUp (x := 10 ^ n) (by push_cast; exact le_refl _) bits'
  refine product.fits (lt_of_le_of_lt (mul_le_mul first second (magnitude_nonneg v) (Nat.cast_nonneg _)) ?_)
  rw [← Nat.cast_mul]
  exact cast_lt_greatest room

/-- A whole number up to a bound with many zeros. -/
theorem le_of_cast_le {n c k : ℕ} (h : (n : ℚ) ≤ c * 2 ^ (k : ℤ)) : n ≤ c * 2 ^ k := by
  have unit : ((2 ^ k : ℕ) : ℚ) = 2 ^ (k : ℤ) := by
    rw [zpow_natCast]
    push_cast
    rfl
  rw [← unit, ← Nat.cast_mul] at h
  exact Nat.cast_le.mp h

/-- All doubles are below the next power of ten. -/
theorem lt_ten_pow : ∀ n < 310, 309 ≤ n → (2 ^ 54 - 3) * 2 ^ 970 < 10 ^ n := by
  decide +kernel

/-- The cell of a double ends before that of the greatest one. -/
theorem quarters_le {x : Dyadic} (h : x.Bounded) (less : x.m ≠ 2 ^ 53 - 1 ∨ x.q ≠ 971) :
    ((4 * x.m + 2 : ℕ) : ℚ) * 2 ^ (x.q - 2) ≤ (2 ^ 54 - 3 : ℕ) * 2 ^ ((970 : ℕ) : ℤ) := by
  have bits := h.canonical.bits
  have most := h.most
  by_cases top : x.q = 971
  · have few : 4 * x.m + 2 ≤ (2 ^ 54 - 3) * 2 := by omega
    have few : ((4 * x.m + 2 : ℕ) : ℚ) ≤ (2 ^ 54 - 3 : ℕ) * 2 := by exact_mod_cast few
    have double : (2 : ℚ) ^ ((970 : ℕ) : ℤ) = 2 * 2 ^ (x.q - 2) := by
      rw [top, ← zpow_one_add₀ two_ne_zero]
      rfl
    rw [double, ← mul_assoc]
    exact mul_le_mul_of_nonneg_right few (two_zpow_pos _).le
  · have few : 4 * x.m + 2 ≤ (2 ^ 54 - 3) * 4 := by omega
    have few : ((4 * x.m + 2 : ℕ) : ℚ) ≤ (2 ^ 54 - 3 : ℕ) * 2 ^ (2 : ℤ) := by exact_mod_cast few
    refine le_trans (mul_le_mul few (two_zpow_le (show x.q - 2 ≤ 968 by omega)) (two_zpow_pos _).le
      (mul_nonneg (Nat.cast_nonneg _) (two_zpow_pos _).le)) ?_
    rw [mul_assoc, ← two_zpow_add]
    exact le_refl _

/-- **The shortest decimal of a double has such a significand.** -/
theorem digits_le_greatestSignificand {x : Dyadic} (h : x.Bounded) (less : x.m ≠ 2 ^ 53 - 1 ∨ x.q ≠ 971) {tie : Tie}
    {n : ℕ} (power : (x.shortest tie).power = n) :
    n < 309 ∧ (x.shortest tie).digits ≤ greatestSignificand n := by
  have pos := Dyadic.digits_shortest_pos h tie
  have few := Dyadic.digits_shortest_le h tie
  have bits := h.canonical.bits
  obtain ⟨d, p, found, reads, _⟩ := Dyadic.shortest_hit h tie
  rw [found] at power pos few ⊢
  obtain rfl : p = n := power
  obtain ⟨⟨_, high⟩, _⟩ := Dyadic.reads_iff.mp reads
  have below : d * 10 ^ n ≤ (2 ^ 54 - 3) * 2 ^ 970 := by
    refine le_of_cast_le (le_trans ?_ (quarters_le h less))
    rw [Dyadic.grid, mul_div_assoc', div_le_iff₀ (two_zpow_pos _), zpow_natCast] at high
    exact_mod_cast high
  refine ⟨?_, Nat.le_min.mpr ⟨(Nat.le_div_iff_mul_le (Nat.pow_pos (by decide))).mpr below, ?_⟩⟩
  · by_contra beyond
    have greater := lt_ten_pow (min n 309) (by omega) (by omega)
    have power : 10 ^ min n 309 ≤ d * 10 ^ n :=
      Nat.le_trans (Nat.pow_le_pow_right (by decide) (Nat.min_le_left n 309)) (Nat.le_mul_of_pos_left _ pos)
    exact Nat.lt_irrefl _ (Nat.lt_of_lt_of_le greater (Nat.le_trans power below))
  · refine (Nat.le_div_iff_mul_le (by decide)).mpr ?_
    show d * 3 ≤ 40 * (2 ^ 53 - 1) + 20
    have few : 3 * d ≤ 40 * x.m + 20 := few
    omega

theorem shortest_greatest : ∀ tie, (Dyadic.ofFields 2046 (leadingBit - 1)).shortest tie = greatestDecimal
  | .up | .toEven => by decide +kernel

/-- So has that of the greatest double, or its own. -/
theorem digits_shortest_room {e f : ℕ} (he : e < 2047) (hf : f < leadingBit) (pos : 0 < (Dyadic.ofFields e f).m)
    {tie : Tie} {n : ℕ} (power : ((Dyadic.ofFields e f).shortest tie).power = n) :
    n < 309 ∧ (((Dyadic.ofFields e f).shortest tie).digits ≤ greatestSignificand n ∨
      ((Dyadic.ofFields e f).shortest tie).digits = greatestDecimal.digits ∧ n = 292) := by
  by_cases top : e = 2046 ∧ f = leadingBit - 1
  · obtain ⟨rfl, rfl⟩ := top
    rw [shortest_greatest] at power ⊢
    have exact : (292 : ℤ) = n := power
    exact ⟨by omega, Or.inr ⟨rfl, by omega⟩⟩
  · have less : (Dyadic.ofFields e f).m ≠ 2 ^ 53 - 1 ∨ (Dyadic.ofFields e f).q ≠ 971 := by
      unfold Dyadic.ofFields leadingBit at *
      split <;> dsimp only <;> omega
    obtain ⟨few, le⟩ := digits_le_greatestSignificand (Dyadic.bounded_ofFields he hf pos) less power
    exact ⟨few, Or.inl le⟩

end BoxOffice.Number
