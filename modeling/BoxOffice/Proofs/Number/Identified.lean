import BoxOffice.Proofs.Number.Rounding
import BoxOffice.Proofs.Number.Shortest

/-!
# The shortest decimal identifies its double

* `Dyadic.grid`, `reads_iff` -- the test of a decimal, in quarters of the double's last place;
* `exists_onGrid` -- a grid narrower than three quarters is hit;
* `ten_zpow_le`, `two_zpow_le_ten` -- how powers of ten and of two compare;
* `shortest_hit` -- so the search ends with a hit, and no grid coarser by ten is as narrow;
* `digits_shortest_le` -- a shortest decimal has few digits;
* `inCell_shortest` -- **it lies in the cell of its double**.
-/

namespace BoxOffice.Number

namespace Dyadic

variable {x : Dyadic} {tie : Tie} {p : ℤ} {d n : ℕ}

/-! ## 1. Decimals in quarters of the last place -/

/-- How many quarters of the last place `10 ^ p` is. -/
def grid (x : Dyadic) (p : ℤ) : ℚ := 10 ^ p / 2 ^ (x.q - 2)

/-- A power with an integer exponent is a quotient of two others. -/
theorem pow_toNat {b : ℚ} (nonzero : b ≠ 0) (k : ℤ) : b ^ k.toNat = b ^ k * b ^ (-k).toNat := by
  rw [← zpow_natCast, ← zpow_natCast, ← zpow_add₀ nonzero]
  congr 1
  omega

theorem quarterScale_pos (x : Dyadic) (p : ℤ) : (0 : ℚ) < x.quarterScale p := by
  have pos : 0 < x.quarterScale p := Nat.mul_pos (Nat.pow_pos (by decide)) (Nat.pow_pos (by decide))
  exact_mod_cast pos

/-- The two scales. -/
theorem gridScale_eq (x : Dyadic) (p : ℤ) : (x.gridScale p : ℚ) = x.grid p * x.quarterScale p := by
  have two := pow_toNat (b := 2) two_ne_zero (x.q - 2)
  have ten := pow_toNat (b := 10) (by norm_num) p
  have unit := (two_zpow_pos (x.q - 2)).ne'
  have grids : x.gridScale p = 10 ^ p.toNat * 2 ^ (-(x.q - 2)).toNat := by rw [neg_sub]; rfl
  have quarters : x.quarterScale p = 2 ^ (x.q - 2).toNat * 10 ^ (-p).toNat := rfl
  rw [grids, quarters, grid]
  push_cast
  rw [two, ten]
  field_simp

/-- Comparing counts. -/
theorem scaled_le_iff : n * x.quarterScale p ≤ d * x.gridScale p ↔ (n : ℚ) ≤ d * x.grid p := by
  rw [← @Nat.cast_le ℚ, Nat.cast_mul, Nat.cast_mul, gridScale_eq, ← mul_assoc]
  exact mul_le_mul_iff_of_pos_right (quarterScale_pos x p)

theorem le_scaled_iff : d * x.gridScale p ≤ n * x.quarterScale p ↔ (d : ℚ) * x.grid p ≤ n := by
  rw [← @Nat.cast_le ℚ, Nat.cast_mul, Nat.cast_mul, gridScale_eq, ← mul_assoc]
  exact mul_le_mul_iff_of_pos_right (quarterScale_pos x p)

/-- **A decimal reads back if it lies between the ends**, and on none of them if they do not belong to the interval. -/
theorem reads_iff : x.reads p d = true ↔
    ((x.low : ℚ) ≤ d * x.grid p ∧ d * x.grid p ≤ x.high) ∧
      (x.m % 2 = 1 → (x.low : ℚ) < d * x.grid p ∧ d * x.grid p < x.high) := by
  unfold reads closedEnds
  simp only
  rcases Nat.mod_two_eq_zero_or_one x.m with even | odd
  · rw [even, if_pos (by decide), Bool.and_eq_true, decide_eq_true_eq, decide_eq_true_eq, scaled_le_iff,
      le_scaled_iff]
    exact ⟨fun h => ⟨h, fun odd => by omega⟩, fun h => h.1⟩
  · rw [odd, if_neg (by decide), Bool.and_eq_true, decide_eq_true_eq, decide_eq_true_eq, ← not_le, ← not_le,
      scaled_le_iff, le_scaled_iff, not_le, not_le]
    exact ⟨fun h => ⟨⟨h.1.le, h.2.le⟩, fun _ => h⟩, fun h => h.2 rfl⟩

theorem reads_of_lt (low : (x.low : ℚ) < d * x.grid p) (high : d * x.grid p < x.high) :
    x.reads p d = true :=
  reads_iff.mpr ⟨⟨low.le, high.le⟩, fun _ => ⟨low, high⟩⟩

/-- The lower end lies a quarter below the double at least, and two quarters at most. -/
theorem low_le (pos : 0 < x.m) : (x.low : ℚ) ≤ 4 * x.m - 1 ∧ 4 * (x.m : ℚ) - 2 ≤ x.low := by
  have bounds : x.low + 1 ≤ 4 * x.m ∧ 4 * x.m ≤ x.low + 2 := by
    unfold low
    split <;> omega
  have lower : ((x.low + 1 : ℕ) : ℚ) ≤ (4 * x.m : ℕ) := by exact_mod_cast bounds.1
  have upper : ((4 * x.m : ℕ) : ℚ) ≤ (x.low + 2 : ℕ) := by exact_mod_cast bounds.2
  push_cast at lower upper
  exact ⟨by linarith, by linarith⟩

theorem high_eq (x : Dyadic) : (x.high : ℚ) = 4 * x.m + 2 := by
  unfold high
  push_cast
  rfl

/-! ## 2. Hits -/

/-- If one of the neighbours reads back, the grid is hit. -/
theorem onGrid_ne_none (h : x.reads p (x.centre * x.quarterScale p / x.gridScale p) = true ∨
    x.reads p (x.centre * x.quarterScale p / x.gridScale p + 1) = true) : x.onGrid tie p ≠ none := by
  unfold onGrid
  simp only
  split
  · next below above =>
    rcases h with h | h
    · cases below.symm.trans h
    · cases above.symm.trans h
  · exact Option.some_ne_none _
  · exact Option.some_ne_none _
  · split
    · exact Option.some_ne_none _
    · split
      · exact Option.some_ne_none _
      · split
        · exact Option.some_ne_none _
        · split <;> exact Option.some_ne_none _

/-- **A grid narrower than three quarters is hit**: the double has a quarter below it and two above. -/
theorem exists_onGrid (pos : 0 < x.m) (narrow : x.grid p < 3) : x.onGrid tie p ≠ none := by
  have step : 0 < x.gridScale p := Nat.mul_pos (Nat.pow_pos (by decide)) (Nat.pow_pos (by decide))
  have centre : (x.centre : ℚ) = 4 * x.m := by
    unfold centre
    push_cast
    rfl
  have below := le_scaled_iff.mp (Nat.div_mul_le_self (x.centre * x.quarterScale p) (x.gridScale p))
  have behind := Nat.lt_mul_div_succ (x.centre * x.quarterScale p) step
  rw [Nat.mul_comm (x.gridScale p)] at behind
  have above := not_le.mp (mt le_scaled_iff.mpr (not_le.mpr behind))
  refine onGrid_ne_none ?_
  generalize x.centre * x.quarterScale p / x.gridScale p = d at below above
  obtain ⟨low, _⟩ := low_le pos
  have high := high_eq x
  rw [centre] at below above
  by_cases near : 4 * (x.m : ℚ) - 1 < d * x.grid p
  · exact Or.inl (reads_of_lt (by linarith) (by linarith))
  · refine Or.inr (reads_of_lt ?_ ?_)
    · linarith
    · push_cast
      linarith

/-- **The search ends with a hit if there is one**, and the grid before that was not hit. -/
theorem search_of_hit : ∀ (n : ℕ) (p : ℤ), (∃ k < n, x.onGrid tie (p - k) ≠ none) →
    ∃ d q, x.search tie n p = ⟨d, q⟩ ∧ x.onGrid tie q = some d ∧ (q = p ∨ x.onGrid tie (q + 1) = none) ∧
      q ≤ p ∧ p < q + n
  | 0, p, ⟨k, less, _⟩ => absurd less (Nat.not_lt_zero k)
  | n + 1, p, ⟨k, less, hit⟩ => by
    unfold search
    cases here : x.onGrid tie p with
    | some d => exact ⟨d, p, rfl, here, Or.inl rfl, le_refl p, by omega⟩
    | none =>
      have later : ∃ k < n, x.onGrid tie (p - 1 - k) ≠ none := by
        cases k with
        | zero =>
          rw [Nat.cast_zero, sub_zero] at hit
          exact absurd here hit
        | succ k =>
          refine ⟨k, Nat.lt_of_succ_lt_succ less, ?_⟩
          rwa [Nat.cast_succ, add_comm, ← sub_sub] at hit
      obtain ⟨d, q, found, hit, before, most, least⟩ := search_of_hit n (p - 1) later
      refine ⟨d, q, found, hit, Or.inr ?_, by omega, by omega⟩
      rcases before with rfl | before
      · rwa [sub_add_cancel]
      · exact before

end Dyadic

/-! ## 3. Powers of ten and of two -/

section Logarithm

/-! Here `b / a` is the logarithm of two to the base ten, or a little more. -/

variable {a b : ℕ} {k j : ℤ}

/-- Powers of both, up to one bit. -/
theorem ten_between (low : (2 : ℚ) ^ a ≤ 10 ^ b) (high : (10 : ℚ) ^ b ≤ 2 ^ (a + 1)) (few : k.natAbs ≤ a) :
    (2 : ℚ) ^ (a * (k - 1)) ≤ 10 ^ (b * k) ∧ (10 : ℚ) ^ (b * k) ≤ 2 ^ (a * (k + 1)) := by
  have powers : ∀ n : ℕ, (2 : ℚ) ^ ((a : ℤ) * n) ≤ 10 ^ ((b : ℤ) * n) ∧
      (10 : ℚ) ^ ((b : ℤ) * n) ≤ 2 ^ (((a : ℤ) + 1) * n) := by
    intro n
    have lower := pow_le_pow_left₀ (by positivity) low n
    have upper := pow_le_pow_left₀ (by positivity) high n
    rw [← pow_mul, ← pow_mul] at lower upper
    exact ⟨by exact_mod_cast lower, by exact_mod_cast upper⟩
  obtain ⟨lower, upper⟩ := powers k.natAbs
  have most : k ≤ a := by omega
  have least : -(a : ℤ) ≤ k := by omega
  rcases Int.natAbs_eq k with positive | negative
  · rw [← positive] at lower upper
    refine ⟨le_trans (two_zpow_le ?_) lower, le_trans upper (two_zpow_le ?_)⟩
    · linarith
    · linarith
  · have opposite : (k.natAbs : ℤ) = -k := by omega
    rw [opposite, mul_neg, mul_neg, zpow_neg, zpow_neg] at lower
    rw [opposite, mul_neg, mul_neg, zpow_neg, zpow_neg] at upper
    have lower := (inv_le_inv₀ (two_zpow_pos _) (zpow_pos (by norm_num) _)).mp lower
    have upper := (inv_le_inv₀ (zpow_pos (by norm_num) _) (two_zpow_pos _)).mp upper
    refine ⟨le_trans (two_zpow_le ?_) upper, le_trans lower (two_zpow_le ?_)⟩
    · linarith
    · linarith

/-- The power of ten that a power of two reaches. -/
theorem ten_zpow_le (low : (2 : ℚ) ^ a ≤ 10 ^ b) (high : (10 : ℚ) ^ b ≤ 2 ^ (a + 1)) (pos : 0 < a)
    (few : k.natAbs ≤ a) (le : a * j ≤ b * k) : (10 : ℚ) ^ j ≤ 2 ^ (k + 1) := by
  refine le_of_pow_le_pow_left₀ (Nat.ne_of_gt pos) (two_zpow_pos _).le ?_
  rw [← zpow_natCast, ← zpow_natCast, ← zpow_mul, ← zpow_mul, mul_comm, mul_comm (k + 1)]
  refine le_trans ?_ (ten_between low high few).2
  exact zpow_le_zpow_right₀ (by norm_num) le

/-- The power of ten behind a power of two. -/
theorem two_zpow_le_ten (low : (2 : ℚ) ^ a ≤ 10 ^ b) (high : (10 : ℚ) ^ b ≤ 2 ^ (a + 1)) (pos : 0 < a)
    (few : k.natAbs ≤ a) (le : b * k ≤ a * j) : (2 : ℚ) ^ (k - 1) ≤ 10 ^ j := by
  refine le_of_pow_le_pow_left₀ (Nat.ne_of_gt pos) (zpow_pos (by norm_num) _).le ?_
  rw [← zpow_natCast, ← zpow_natCast, ← zpow_mul, ← zpow_mul, mul_comm, mul_comm j]
  refine le_trans (ten_between low high few).1 ?_
  exact zpow_le_zpow_right₀ (by norm_num) le

end Logarithm

/-- The logarithm that `topPower` uses. -/
theorem two_pow_le_ten_pow :
    (2 : ℚ) ^ 100000 ≤ 10 ^ 30103 ∧ (10 : ℚ) ^ 30103 ≤ 2 ^ (100000 + 1) := by
  have whole : 2 ^ 100000 ≤ 10 ^ 30103 ∧ 10 ^ 30103 ≤ 2 ^ (100000 + 1) := by decide +kernel
  exact ⟨by exact_mod_cast whole.1, by exact_mod_cast whole.2⟩

namespace Dyadic

variable {x : Dyadic} {tie : Tie} {p : ℤ} {d : ℕ}

/-- The magnitude is that of a double above zero. -/
structure Bounded (x : Dyadic) : Prop where
  canonical : Canonical x.m x.q
  most : x.q ≤ 971

/-- The magnitude of fields is. -/
theorem bounded_ofFields {e f : ℕ} (he : e < 2047) (hf : f < leadingBit) (pos : 0 < (ofFields e f).m) :
    (ofFields e f).Bounded := by
  refine ⟨canonical_ofFields hf pos, ?_⟩
  unfold ofFields
  split <;> dsimp only <;> omega

theorem Bounded.log_le (h : x.Bounded) : x.m.log2 ≤ 52 :=
  Nat.lt_succ_iff.mp ((Nat.log2_lt (Nat.ne_of_gt h.canonical.pos)).mpr h.canonical.bits)

/-- Its exponent, where the first bit is. -/
def bitPower (x : Dyadic) : ℤ := x.q + x.m.log2 + 1

theorem bitPower_few (h : x.Bounded) : x.bitPower.natAbs ≤ 100000 := by
  have log := h.log_le
  have least := h.canonical.least
  have most := h.most
  unfold bitPower
  omega

theorem topPower_eq (x : Dyadic) : x.topPower = x.bitPower * 30103 / 100000 + 1 := rfl

/-- The highest grid is half as wide as the double at least. -/
theorem two_zpow_le_top (h : x.Bounded) : (2 : ℚ) ^ (x.bitPower - 1) ≤ 10 ^ x.topPower := by
  refine two_zpow_le_ten two_pow_le_ten_pow.1 two_pow_le_ten_pow.2 (by decide) (bitPower_few h) ?_
  rw [topPower_eq]
  omega

/-- The lowest grid is narrow. -/
theorem grid_low (h : x.Bounded) : x.grid (x.topPower - 21) < 3 := by
  have log := h.log_le
  have top : (10 : ℚ) ^ (x.topPower - 1) ≤ 2 ^ (x.bitPower + 1) := by
    refine ten_zpow_le two_pow_le_ten_pow.1 two_pow_le_ten_pow.2 (by decide) (bitPower_few h) ?_
    rw [topPower_eq]
    omega
  have bits : (2 : ℚ) ^ (x.bitPower + 1) ≤ 2 ^ 56 * 2 ^ (x.q - 2) := by
    rw [← zpow_natCast, ← two_zpow_add]
    refine two_zpow_le ?_
    unfold bitPower
    omega
  have tens : (10 : ℚ) ^ (x.topPower - 21) = 10 ^ (x.topPower - 1) / 10 ^ 20 := by
    rw [← zpow_natCast, ← zpow_sub₀ (by norm_num)]
    congr 1
    omega
  rw [grid, div_lt_iff₀ (two_zpow_pos _), tens, div_lt_iff₀ (by norm_num)]
  have unit := two_zpow_pos (x.q - 2)
  generalize (2 : ℚ) ^ (x.q - 2) = a at *
  generalize (2 : ℚ) ^ (x.bitPower + 1) = b at *
  generalize (10 : ℚ) ^ (x.topPower - 1) = c at *
  norm_num at *
  linarith

/-! ## 4. The shortest decimal -/

/-- **The search ends with a hit**, on the highest grid or behind one that is not narrow. -/
theorem shortest_hit (h : x.Bounded) (tie : Tie) : ∃ d p, x.shortest tie = ⟨d, p⟩ ∧ x.reads p d = true ∧
    (p = x.topPower ∨ 3 ≤ x.grid (p + 1)) ∧ p ≤ x.topPower ∧ x.topPower < p + 22 := by
  have pos := h.canonical.pos
  have hit : x.onGrid tie (x.topPower - (21 : ℕ)) ≠ none := exists_onGrid pos (grid_low h)
  obtain ⟨d, p, found, here, before, range⟩ := search_of_hit 22 x.topPower ⟨21, by decide, hit⟩
  refine ⟨d, p, ?_, reads_of_onGrid here, before.imp_right fun none => ?_, range⟩
  · rw [shortest, if_neg (Nat.ne_of_gt pos), found]
  · exact not_lt.mp fun narrow => exists_onGrid pos narrow none

theorem grid_succ (x : Dyadic) (p : ℤ) : x.grid (p + 1) = 10 * x.grid p := by
  rw [grid, grid, zpow_add_one₀ (by norm_num)]
  ring

/-- The highest grid is a quarter of the double at least. -/
theorem le_grid_top (h : x.Bounded) : (x.m : ℚ) ≤ x.grid x.topPower := by
  have bits : x.m < 2 ^ (x.m.log2 + 1) := Nat.lt_log2_self
  have bits' : (x.m : ℚ) ≤ 2 ^ (((x.m.log2 + 1 : ℕ) : ℤ)) := by
    rw [zpow_natCast]
    exact_mod_cast bits.le
  rw [grid, le_div_iff₀ (two_zpow_pos _)]
  refine le_trans (mul_le_mul_of_nonneg_right bits' (two_zpow_pos _).le) (le_trans ?_ (two_zpow_le_top h))
  rw [← two_zpow_add]
  refine two_zpow_le ?_
  unfold bitPower
  omega

/-- **A shortest decimal has few digits.** -/
theorem digits_shortest_le (h : x.Bounded) (tie : Tie) : 3 * (x.shortest tie).digits ≤ 40 * x.m + 20 := by
  obtain ⟨d, p, found, reads, coarse, _⟩ := shortest_hit h tie
  rw [found]
  show 3 * d ≤ 40 * x.m + 20
  obtain ⟨⟨_, high⟩, _⟩ := reads_iff.mp reads
  rw [high_eq] at high
  have whole : (1 : ℚ) ≤ x.m := by exact_mod_cast h.canonical.pos
  have cast : (3 * d : ℚ) ≤ 40 * x.m + 20 := by
    rcases coarse with rfl | coarse
    · have top := le_grid_top h
      have few : (d : ℚ) * x.m ≤ 6 * x.m :=
        le_trans (mul_le_mul_of_nonneg_left top (Nat.cast_nonneg d)) (by linarith)
      have small := le_of_mul_le_mul_right few (by linarith)
      linarith
    · rw [grid_succ] at coarse
      have step : (d : ℚ) * 3 ≤ d * (10 * x.grid p) := mul_le_mul_of_nonneg_left coarse (Nat.cast_nonneg d)
      linarith
  exact_mod_cast cast

/-- A shortest decimal is not zero. -/
theorem digits_shortest_pos (h : x.Bounded) (tie : Tie) : 0 < (x.shortest tie).digits := by
  obtain ⟨d, p, found, reads, _⟩ := shortest_hit h tie
  obtain ⟨⟨low, _⟩, _⟩ := reads_iff.mp reads
  obtain ⟨_, wide⟩ := low_le h.canonical.pos
  have whole : (1 : ℚ) ≤ x.m := by exact_mod_cast h.canonical.pos
  rw [found]
  refine Nat.pos_of_ne_zero fun zero => ?_
  have zero : (d : ℚ) = 0 := by exact_mod_cast zero
  rw [zero, zero_mul] at low
  linarith

end Dyadic

end BoxOffice.Number
