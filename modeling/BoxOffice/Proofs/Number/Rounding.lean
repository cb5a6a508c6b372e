import BoxOffice.Proofs.Number.Packing
import BoxOffice.Proofs.Number.Sum
import Mathlib.Algebra.Order.Field.Basic
import Mathlib.Algebra.Order.Field.Power
import Mathlib.Algebra.Order.Ring.Rat
import Mathlib.Data.Int.Log
import Mathlib.Data.Rat.Floor
import Mathlib.Tactic.FieldSimp
import Mathlib.Tactic.Linarith
import Mathlib.Tactic.NormNum
import Mathlib.Tactic.Ring

/-!
# Rounding to the nearest double

* `Nearest y c` -- `c` is the natural number next to `y`, of two equally near ones the even one;
* `Holds` -- what a mantissa stands for with its two further bits; `Holds.nearest` -- it is rounded to the nearest;
* `Ulp x t` -- the doubles around `x` lie `2 ^ t` apart;
* `Rounds s x u` -- `u` is the double next to `x`, with the sign `s`; `rounds_roundWithAccuracy` -- that is what
  rounding with enough bits gives;
* `Rounds.eq_of_cell` -- what lies between the middles to the neighbours of a double is rounded to that double;
* `Rounds.magnitude_le`, `Rounds.magnitude_eq` -- rounding leads over no double, and moves none;
* `Rounds.fits` -- what is below the middle behind the greatest double is rounded to a double that fits.
-/

namespace BoxOffice.Number

open Float.Model (UnpackedFloat Format)
open Float.Model.UnpackedFloat

/-! ## 1. The nearest natural number -/

/-- **The natural number next to `y`**, of two equally near ones the even one. -/
structure Nearest (y : ℚ) (c : ℕ) : Prop where
  low : (c : ℚ) - 1 / 2 ≤ y
  high : y ≤ c + 1 / 2
  inside : c % 2 = 1 → (c : ℚ) - 1 / 2 < y ∧ y < c + 1 / 2

namespace Nearest

variable {y : ℚ} {c d n : ℕ}

theorem natCast (n : ℕ) : Nearest n n :=
  ⟨by linarith, by linarith, fun _ => ⟨by linarith, by linarith⟩⟩

theorem le_of_lt (h : Nearest y c) (le : y < n + 1 / 2) : c ≤ n := by
  have bound : (c : ℚ) < n + 1 := by linarith [h.low]
  exact Nat.lt_succ_iff.mp (by exact_mod_cast bound)

theorem le_of_le (h : Nearest y c) (le : y ≤ n) : c ≤ n :=
  h.le_of_lt (by linarith)

theorem ge_of_ge (h : Nearest y c) (le : (n : ℚ) ≤ y) : n ≤ c := by
  have bound : (n : ℚ) < c + 1 := by linarith [h.high]
  exact Nat.lt_succ_iff.mp (by exact_mod_cast bound)

/-- Of two neighbours, only one is nearest. -/
theorem not_succ (h : Nearest y c) : ¬ Nearest y (c + 1) := by
  intro next
  have low := next.low
  push_cast at low
  rcases Nat.mod_two_eq_zero_or_one c with even | odd
  · have inside := (next.inside (by omega)).1
    push_cast at inside
    linarith [h.high]
  · linarith [(h.inside odd).2]

/-- **There is only one nearest number.** -/
theorem unique (hc : Nearest y c) (hd : Nearest y d) : c = d := by
  have close : ∀ {a b : ℕ}, Nearest y a → Nearest y b → a ≤ b := by
    intro a b ha hb
    by_contra less
    have near : (a : ℚ) ≤ b + 1 := by linarith [ha.low, hb.high]
    have succ : a = b + 1 := Nat.le_antisymm (by exact_mod_cast near) (by omega)
    exact hb.not_succ (succ ▸ ha)
  exact Nat.le_antisymm (close hc hd) (close hd hc)

end Nearest

/-! ## 2. Mantissas with two further bits -/

/-- **What a mantissa stands for**: the first bit is a half, the second one says that there is more. -/
def Holds (em : ExtendedMantissa) (y : ℚ) : Prop :=
  if em.roundBit then
    if em.stickyBit then (em.mantissa : ℚ) + 1 / 2 < y ∧ y < em.mantissa + 1 else y = em.mantissa + 1 / 2
  else
    if em.stickyBit then (em.mantissa : ℚ) < y ∧ y < em.mantissa + 1 / 2 else y = em.mantissa

namespace Holds

variable {em : ExtendedMantissa} {y : ℚ}

theorem mantissa_le (h : Holds em y) : (em.mantissa : ℚ) ≤ y := by
  obtain ⟨m, r, s⟩ := em
  cases r <;> cases s <;> simp only [Holds, Bool.false_eq_true, if_false, if_true] at h ⊢ <;> linarith

theorem lt_mantissa (h : Holds em y) : y < em.mantissa + 1 := by
  obtain ⟨m, r, s⟩ := em
  cases r <;> cases s <;> simp only [Holds, Bool.false_eq_true, if_false, if_true] at h ⊢ <;> linarith

/-- **A mantissa is rounded to the nearest number.** -/
theorem nearest (h : Holds em y) : Nearest y em.roundedMantissa := by
  obtain ⟨m, r, s⟩ := em
  cases r <;> cases s <;>
    simp only [Holds, Bool.false_eq_true, if_false, if_true] at h <;>
    simp only [ExtendedMantissa.roundedMantissa, ExtendedMantissa.accuracy, Accuracy.roundToNearestEven]
  · exact h ▸ .natCast m
  · exact ⟨by linarith, by linarith, fun _ => ⟨by linarith, by linarith⟩⟩
  · -- the tie
    rcases Nat.mod_two_eq_zero_or_one m with even | odd
    · rw [even]
      exact ⟨by push_cast; linarith, by push_cast; linarith, fun odd => by omega⟩
    · rw [odd]
      exact ⟨by push_cast; linarith, by push_cast; linarith, fun odd => by omega⟩
  · exact ⟨by push_cast; linarith, by push_cast; linarith,
      fun _ => ⟨by push_cast; linarith, by push_cast; linarith⟩⟩

theorem exact (m : ℕ) : Holds (.ofMantissaAndAccuracy m .exact) m := rfl

/-- A quotient, with what its remainder says. -/
theorem quotient (n : ℕ) {d : ℕ} (pos : 0 < d) :
    Holds (.ofMantissaAndAccuracy (n / d) (accuracyOfFraction (n % d) d)) ((n : ℚ) / d) := by
  have pos' : (0 : ℚ) < d := by exact_mod_cast pos
  have value : (n : ℚ) / d = (n / d : ℕ) + ((n % d : ℕ) : ℚ) / d := by
    rw [eq_comm, ← sub_eq_zero]
    have parts : ((d * (n / d) + n % d : ℕ) : ℚ) = n := by rw [Nat.div_add_mod]
    push_cast at parts
    field_simp
    linarith
  have less : ((n % d : ℕ) : ℚ) / d < 1 := by
    rw [div_lt_one pos']
    exact_mod_cast Nat.mod_lt n pos
  unfold accuracyOfFraction
  by_cases zero : n % d = 0
  · rw [if_pos zero, value, zero]
    simp [Holds, ExtendedMantissa.ofMantissaAndAccuracy]
  · have more : (0 : ℚ) < ((n % d : ℕ) : ℚ) / d :=
      div_pos (by exact_mod_cast Nat.pos_of_ne_zero zero) pos'
    rw [if_neg zero, value]
    cases order : compare (2 * (n % d)) d with
    | lt =>
      have half : ((n % d : ℕ) : ℚ) / d < 1 / 2 := by
        have less : ((2 * (n % d) : ℕ) : ℚ) < d := by exact_mod_cast Nat.compare_eq_lt.mp order
        push_cast at less
        rw [div_lt_div_iff₀ pos' two_pos]
        linarith
      exact ⟨lt_add_of_pos_right _ more, add_lt_add_right half _⟩
    | eq =>
      have half : ((n % d : ℕ) : ℚ) / d = 1 / 2 := by
        have same : ((2 * (n % d) : ℕ) : ℚ) = d := by exact_mod_cast Nat.compare_eq_eq.mp order
        push_cast at same
        rw [div_eq_div_iff pos'.ne' two_ne_zero]
        linarith
      rw [half]
      rfl
    | gt =>
      have half : 1 / 2 < ((n % d : ℕ) : ℚ) / d := by
        have more : (d : ℚ) < ((2 * (n % d) : ℕ) : ℚ) := by exact_mod_cast Nat.compare_eq_gt.mp order
        push_cast at more
        rw [div_lt_div_iff₀ two_pos pos']
        linarith
      exact ⟨add_lt_add_right half _, add_lt_add_right less _⟩

theorem shiftRightOne (h : Holds em y) : Holds em.shiftRightOne (y / 2) := by
  obtain ⟨m, r, s⟩ := em
  have parts : ((m % 2 : ℕ) : ℚ) + 2 * ((m / 2 : ℕ) : ℚ) = m := by exact_mod_cast Nat.mod_add_div m 2
  rcases Nat.mod_two_eq_zero_or_one m with even | odd
  · rw [even] at parts
    cases r <;> cases s <;>
      simp only [Holds, ExtendedMantissa.shiftRightOne, even, Bool.or_true, Bool.or_false, bne_self_eq_false,
        Bool.false_eq_true, if_false, if_true] at h ⊢ <;>
      push_cast at parts <;> first | (constructor <;> linarith) | linarith
  · rw [odd] at parts
    cases r <;> cases s <;>
      simp only [Holds, ExtendedMantissa.shiftRightOne, odd, Bool.or_true, Bool.or_false,
        show ((1 : ℕ) != 0) = true from rfl, Bool.false_eq_true, if_false, if_true] at h ⊢ <;>
      push_cast at parts <;> first | (constructor <;> linarith) | linarith

/-- **Shifting divides.** -/
theorem shiftRight (h : Holds em y) : ∀ k : ℕ, Holds (em >>> k) (y / 2 ^ k)
  | 0 => by
    rw [pow_zero, div_one]
    exact h
  | k + 1 => by
    rw [pow_succ, ← div_div]
    exact (shiftRight h k).shiftRightOne

end Holds

/-! ## 3. The places of doubles -/

/-- **The doubles around `x` lie `2 ^ t` apart.** -/
structure Ulp (x : ℚ) (t : ℤ) : Prop where
  least : -1074 ≤ t
  below : x < 2 ^ (t + 53)
  above : t = -1074 ∨ (2 : ℚ) ^ (t + 52) ≤ x

theorem two_zpow_pos (k : ℤ) : (0 : ℚ) < 2 ^ k := zpow_pos two_pos k

/-- A power of two above another has the greater exponent. -/
theorem lt_of_two_zpow_lt {j k : ℤ} (h : (2 : ℚ) ^ j < 2 ^ k) : j < k :=
  (zpow_lt_zpow_iff_right₀ one_lt_two).mp h

theorem two_zpow_le {j k : ℤ} (h : j ≤ k) : (2 : ℚ) ^ j ≤ 2 ^ k :=
  (zpow_le_zpow_iff_right₀ one_lt_two).mpr h

theorem two_zpow_add (j k : ℤ) : (2 : ℚ) ^ (j + k) = 2 ^ j * 2 ^ k := zpow_add₀ two_ne_zero j k

/-- A number of `53` bits is below the next power of two. -/
theorem mul_two_zpow_lt {c : ℕ} (bits : c < 2 ^ 53) (q : ℤ) : (c : ℚ) * 2 ^ q < 2 ^ (q + 53) := by
  have bits' : (c : ℚ) < 2 ^ (53 : ℤ) := by exact_mod_cast bits
  rw [add_comm, two_zpow_add]
  exact mul_lt_mul_of_pos_right bits' (two_zpow_pos q)

/-- Every number above zero has its place. -/
theorem exists_ulp {x : ℚ} (pos : 0 < x) : ∃ t, Ulp x t := by
  have low : (2 : ℚ) ^ Int.log 2 x ≤ x := by exact_mod_cast Int.zpow_log_le_self (by decide : 1 < 2) pos
  have high : x < (2 : ℚ) ^ (Int.log 2 x + 1) := by exact_mod_cast Int.lt_zpow_succ_log_self (by decide : 1 < 2) x
  refine ⟨max (Int.log 2 x - 52) (-1074), le_max_right _ _, lt_of_lt_of_le high (two_zpow_le (by omega)), ?_⟩
  rcases le_total (Int.log 2 x - 52) (-1074) with least | more
  · exact Or.inl (max_eq_right least)
  · rw [max_eq_left more, sub_add_cancel]
    exact Or.inr low

namespace Ulp

variable {x : ℚ} {t q : ℤ}

/-- The place of a number below a power of two. -/
theorem le_of_lt (h : Ulp x t) (least : -1074 ≤ q) (less : x < 2 ^ (q + 53)) : t ≤ q := by
  rcases h.above with lowest | above
  · omega
  · have := lt_of_two_zpow_lt (lt_of_le_of_lt above less)
    omega

/-- The place of a number above a power of two. -/
theorem ge_of_le (h : Ulp x t) (more : (2 : ℚ) ^ (q + 52) ≤ x) : q ≤ t := by
  have := lt_of_two_zpow_lt (lt_of_le_of_lt more h.below)
  omega

/-- **The exponent that a mantissa is shifted to.** -/
theorem goal_eq (h : Ulp x t) {m : ℕ} {e : ℤ} (low : (m : ℚ) * 2 ^ e ≤ x) (high : x < (m + 1) * 2 ^ e)
    (le : e ≤ t) : goal m e = t := by
  have least := h.least
  rw [BoxOffice.Number.goal_eq]
  by_cases zero : m = 0
  · rw [zero, Nat.log2_zero]
    rcases h.above with lowest | above
    · omega
    · -- a number below `2 ^ e` has no place as high as `e` above the lowest one
      rw [zero, Nat.cast_zero, zero_add, one_mul] at high
      have := lt_of_two_zpow_lt (lt_of_le_of_lt above high)
      omega
  · have least_bit : ((2 ^ m.log2 : ℕ) : ℚ) ≤ m := by exact_mod_cast Nat.log2_self_le zero
    have most_bit : ((m + 1 : ℕ) : ℚ) ≤ (2 ^ (m.log2 + 1) : ℕ) := by exact_mod_cast Nat.lt_log2_self
    have lower : (2 : ℚ) ^ ((m.log2 : ℤ) + e) ≤ x := by
      rw [two_zpow_add]
      refine le_trans (mul_le_mul_of_nonneg_right ?_ (two_zpow_pos e).le) low
      exact_mod_cast least_bit
    have upper : x < (2 : ℚ) ^ ((m.log2 : ℤ) + 1 + e) := by
      rw [two_zpow_add]
      refine lt_of_lt_of_le high (mul_le_mul_of_nonneg_right ?_ (two_zpow_pos e).le)
      exact_mod_cast most_bit
    have atMost := lt_of_two_zpow_lt (lt_of_le_of_lt lower h.below)
    rcases h.above with lowest | above
    · omega
    · have := lt_of_two_zpow_lt (lt_of_le_of_lt above upper)
      omega

end Ulp

/-! ## 4. Rounding to a double -/

/-- **`u` is the double next to `x`**, with the sign `s`, as long as its exponent fits. -/
inductive Rounds (s : Sign) (x : ℚ) : UnpackedFloat → Prop where
  | plain {t : ℤ} {r : ℕ} (place : Ulp x t) (nearest : Nearest (x / 2 ^ t) r) (bits : r < 2 ^ 53) :
      Rounds s x (ofMagnitude s r t)
  | carry {t : ℤ} (place : Ulp x t) (nearest : Nearest (x / 2 ^ t) (2 ^ 53)) :
      Rounds s x (ofMagnitude s (2 ^ 52) (t + 1))

/-- A mantissa within the bits stays where it is. -/
theorem goal_of_lt {r : ℕ} {t : ℤ} (least : -1074 ≤ t) (bits : r < 2 ^ 53) : goal r t ≤ t := by
  rw [goal_eq]
  by_cases zero : r = 0
  · rw [zero, Nat.log2_zero]
    omega
  · have := (Nat.log2_lt zero).mpr bits
    omega

/-- One with a carry is shifted by it. -/
theorem goal_carry {t : ℤ} (least : -1074 ≤ t) : goal (2 ^ 53) t = t + 1 := by
  rw [goal_eq, Nat.log2_two_pow]
  omega

/-- A mantissa never exceeds the bits by more than a carry. -/
theorem Ulp.nearest_le {x : ℚ} {t : ℤ} {r : ℕ} (place : Ulp x t) (nearest : Nearest (x / 2 ^ t) r) :
    r ≤ 2 ^ 53 := by
  refine nearest.le_of_le ((div_le_iff₀ (two_zpow_pos t)).mpr ?_)
  have below := place.below
  rw [add_comm, two_zpow_add] at below
  exact_mod_cast below.le

/-- A mantissa above the lowest place has all the bits. -/
theorem Ulp.le_nearest {x : ℚ} {t : ℤ} {r : ℕ} (above : (2 : ℚ) ^ (t + 52) ≤ x) (nearest : Nearest (x / 2 ^ t) r) :
    2 ^ 52 ≤ r := by
  refine nearest.ge_of_ge ((le_div_iff₀ (two_zpow_pos t)).mpr ?_)
  rw [add_comm, two_zpow_add] at above
  exact_mod_cast above

/-- A rounded mantissa, shifted by what it carries. -/
theorem rounds_of_nearest {s : Sign} {x : ℚ} {t : ℤ} {r k : ℕ} (place : Ulp x t) (nearest : Nearest (x / 2 ^ t) r)
    (hk : k = (goal r t - t).toNat) :
    Rounds s x (ofMagnitude s ((⟨r, false, false⟩ : ExtendedMantissa) >>> k).mantissa (t + k)) := by
  have least := place.least
  rw [mantissa_shiftRight]
  rcases Nat.lt_or_eq_of_le (place.nearest_le nearest) with bits | rfl
  · have stay : k = 0 := by
      have := goal_of_lt least bits
      omega
    rw [stay, pow_zero, Nat.div_one, Nat.cast_zero, add_zero]
    exact .plain place nearest bits
  · have one : k = 1 := by
      rw [goal_carry least] at hk
      omega
    rw [one]
    exact .carry place nearest

/-- **A mantissa with enough bits is rounded to the double next to what it stands for.** -/
theorem rounds_roundWithAccuracy {s : Sign} {m : ℕ} {e t : ℤ} {a : Accuracy} {x : ℚ} (place : Ulp x t)
    (holds : Holds (.ofMantissaAndAccuracy m a) (x / 2 ^ e)) (le : e ≤ t) :
    Rounds s x (roundWithAccuracy Format.binary64 s m e a) := by
  have mantissa : (ExtendedMantissa.ofMantissaAndAccuracy m a).mantissa = m := by
    cases a with
    | exact => rfl
    | inexact o => cases o <;> rfl
  have low := (le_div_iff₀ (two_zpow_pos e)).mp holds.mantissa_le
  have high := (div_lt_iff₀ (two_zpow_pos e)).mp holds.lt_mantissa
  rw [mantissa] at low high
  have target := place.goal_eq low high le
  obtain ⟨k, hk⟩ : ∃ k : ℕ, (goal m e - e).toNat = k := ⟨_, rfl⟩
  have shifted : e + k = t := by omega
  have nearest : Nearest (x / 2 ^ t) (ExtendedMantissa.ofMantissaAndAccuracy m a >>> k).roundedMantissa := by
    have divided : x / 2 ^ t = x / 2 ^ e / 2 ^ k := by
      rw [← shifted, two_zpow_add, zpow_natCast, div_div]
    rw [divided]
    exact (holds.shiftRight k).nearest
  rw [← shifted] at place nearest
  rw [← hk] at place nearest
  exact rounds_of_nearest place nearest rfl

/-! ## 5. What rounding keeps -/

/-- The number without its sign. -/
def magnitude : UnpackedFloat → ℚ
  | .finite _ m e _ => m * 2 ^ e
  | .zero _ | .infinity _ | .notANumber => 0

theorem magnitude_ofMagnitude (s : Sign) (m : ℕ) (e : ℤ) : magnitude (ofMagnitude s m e) = m * 2 ^ e := by
  rcases ofMagnitude_eq s m e with ⟨zero, number⟩ | ⟨_, number⟩
  · rw [number, zero, Nat.cast_zero, zero_mul]
    rfl
  · rw [number]
    rfl

/-- The value of a magnitude. -/
def Dyadic.value (d : Dyadic) : ℚ := d.m * 2 ^ d.q

namespace Rounds

variable {s : Sign} {x : ℚ} {u : UnpackedFloat} {c : ℕ} {q : ℤ}

/-- The rounded number, in steps of its place. -/
theorem exists_place (h : Rounds s x u) :
    ∃ t r, Ulp x t ∧ Nearest (x / 2 ^ t) r ∧ magnitude u = r * 2 ^ t := by
  cases h with
  | @plain t r place nearest _ => exact ⟨t, r, place, nearest, magnitude_ofMagnitude s r t⟩
  | @carry t place nearest =>
    refine ⟨t, 2 ^ 53, place, nearest, ?_⟩
    rw [magnitude_ofMagnitude, two_zpow_add]
    push_cast
    ring

/-- Above the lowest place, a number is rounded to a mantissa with all the bits. -/
theorem exists_finite (h : Rounds s x u) (normal : (2 : ℚ) ^ (-1021 : ℤ) ≤ x) :
    ∃ m e p, u = .finite s m e p ∧ 2 ^ 52 ≤ m := by
  cases h with
  | @plain t r place nearest _ =>
    have high := lt_of_two_zpow_lt (lt_of_le_of_lt normal place.below)
    have bits := Ulp.le_nearest (place.above.resolve_left (by omega)) nearest
    have pos : 0 < r := Nat.lt_of_lt_of_le (by decide) bits
    exact ⟨r, t, pos, ofMagnitude_of_pos s t pos, bits⟩
  | @carry t place nearest => exact ⟨2 ^ 52, t + 1, by decide, ofMagnitude_of_pos s _ _, Nat.le_refl _⟩

/-- **Rounding leads over no double.** -/
theorem magnitude_le (h : Rounds s x u) (least : -1074 ≤ q) (bits : c < 2 ^ 53) (le : x ≤ c * 2 ^ q) :
    magnitude u ≤ c * 2 ^ q := by
  obtain ⟨t, r, place, nearest, value⟩ := h.exists_place
  have t_le := place.le_of_lt least (lt_of_le_of_lt le (mul_two_zpow_lt bits q))
  obtain ⟨k, rfl⟩ : ∃ k : ℕ, q = k + t := ⟨(q - t).toNat, by omega⟩
  rw [two_zpow_add, zpow_natCast, ← mul_assoc] at le ⊢
  have steps : r ≤ c * 2 ^ k := by
    refine nearest.le_of_le ((div_le_iff₀ (two_zpow_pos t)).mpr ?_)
    exact_mod_cast le
  rw [value]
  exact mul_le_mul_of_nonneg_right (by exact_mod_cast steps) (two_zpow_pos t).le

/-- **Rounding moves no double.** -/
theorem magnitude_eq (h : Rounds s (c * 2 ^ q) u) (least : -1074 ≤ q) (bits : c < 2 ^ 53) :
    magnitude u = c * 2 ^ q := by
  obtain ⟨t, r, place, nearest, value⟩ := h.exists_place
  have t_le := place.le_of_lt least (mul_two_zpow_lt bits q)
  obtain ⟨k, rfl⟩ : ∃ k : ℕ, q = k + t := ⟨(q - t).toNat, by omega⟩
  have exact : (c : ℚ) * 2 ^ ((k : ℤ) + t) / 2 ^ t = (c * 2 ^ k : ℕ) := by
    rw [two_zpow_add, zpow_natCast, ← mul_assoc, mul_div_cancel_right₀ _ (two_zpow_pos t).ne']
    push_cast
    rfl
  rw [exact] at nearest
  rw [value, nearest.unique (.natCast _), two_zpow_add, zpow_natCast, ← mul_assoc]
  push_cast
  rfl

end Rounds

/-! ## 6. Cells -/

/-- **`x` lies between the middles to the neighbours of the double `c · 2 ^ q`**, ends included if `c` is even. The
    neighbour below a power of two is half as far away. -/
structure InCell (x : ℚ) (c : ℕ) (q : ℤ) : Prop where
  nearest : Nearest (x / 2 ^ q) c
  narrow : c = 2 ^ 52 → q ≠ -1074 → (2 ^ 52 - 1 / 4 : ℚ) ≤ x / 2 ^ q

/-- The place of a number in a cell is that of the double, or the one below if it lies below a power of two. -/
theorem InCell.place {x : ℚ} {c r : ℕ} {q t : ℤ} (cell : InCell x c q) (canonical : Canonical c q) (place : Ulp x t)
    (nearest : Nearest (x / 2 ^ t) r) : (t = q ∧ r = c) ∨ (t + 1 = q ∧ r = 2 ^ 53 ∧ c = 2 ^ 52) := by
  have unit := two_zpow_pos q
  have bits : (c : ℚ) + 1 ≤ 2 ^ 53 := by exact_mod_cast canonical.bits
  have below : x < 2 ^ (q + 53) := by
    rw [add_comm, two_zpow_add, ← div_lt_iff₀ unit]
    refine lt_of_le_of_lt cell.nearest.high ?_
    norm_num at bits ⊢
    linarith
  have le := place.le_of_lt canonical.least below
  by_cases same : t = q
  · subst same
    exact Or.inl ⟨rfl, nearest.unique cell.nearest⟩
  · refine Or.inr ?_
    have least := place.least
    have small : x / 2 ^ q < 2 ^ 52 := by
      by_contra more
      rw [not_lt, le_div_iff₀ unit] at more
      refine same (Int.le_antisymm le (place.ge_of_le ?_))
      rw [add_comm, two_zpow_add]
      exact_mod_cast more
    have full : 2 ^ 52 ≤ c := canonical.full.resolve_left (by omega)
    have power : c = 2 ^ 52 := by
      have less : (c : ℚ) < 2 ^ 52 + 1 := by linarith [cell.nearest.low]
      have less' : c < 2 ^ 52 + 1 := by exact_mod_cast less
      omega
    have narrow := cell.narrow power (by omega)
    have half : ∀ y : ℚ, y / 2 ^ (q - 1) = 2 * (y / 2 ^ q) := by
      intro y
      rw [zpow_sub_one₀ two_ne_zero]
      field_simp
    have place_eq : t = q - 1 := by
      refine Int.le_antisymm (by omega) (place.ge_of_le ?_)
      rw [show q - 1 + 52 = 51 + q by ring, two_zpow_add, ← le_div_iff₀ unit]
      refine le_trans ?_ narrow
      norm_num
    rw [place_eq, half] at nearest
    refine ⟨by omega, nearest.unique ⟨?_, ?_, fun odd => absurd odd (by decide)⟩, power⟩
    · push_cast
      linarith
    · push_cast
      linarith

namespace Rounds

variable {s : Sign} {x : ℚ} {u : UnpackedFloat} {c : ℕ} {q : ℤ}

/-- **What lies in the cell of a double is rounded to that double.** -/
theorem eq_of_cell (h : Rounds s x u) (canonical : Canonical c q) (cell : InCell x c q) :
    u = ofMagnitude s c q := by
  have bits := canonical.bits
  cases h with
  | plain place nearest less =>
    rcases cell.place canonical place nearest with ⟨rfl, rfl⟩ | ⟨_, carry, _⟩
    · rfl
    · omega
  | carry place nearest =>
    rcases cell.place canonical place nearest with ⟨_, full⟩ | ⟨rfl, _, rfl⟩
    · omega
    · rfl

end Rounds

/-- **What is below the middle behind the greatest double is rounded to a double that fits.** -/
theorem Rounds.fits {s : Sign} {x : ℚ} {u : UnpackedFloat} (h : Rounds s x u)
    (below : x < (2 ^ 54 - 1) * 2 ^ (970 : ℤ)) : Fits u := by
  have power : x < 2 ^ (971 + 53 : ℤ) := by
    refine lt_of_lt_of_le below ?_
    rw [show (971 + 53 : ℤ) = 54 + 970 by rfl, two_zpow_add]
    refine mul_le_mul_of_nonneg_right ?_ (two_zpow_pos _).le
    norm_num
  cases h with
  | @plain t r place nearest bits =>
    rcases Nat.eq_zero_or_pos r with rfl | pos
    · exact fits_zero s
    · refine fits_of_canonical s ⟨pos, bits, place.least, ?_⟩ (place.le_of_lt (by omega) power)
      exact place.above.imp_right fun above => Ulp.le_nearest above nearest
  | @carry t place nearest =>
    have least := place.least
    refine fits_of_canonical s ⟨by decide, by decide, by omega, Or.inr (Nat.le_refl _)⟩ ?_
    have le := place.le_of_lt (by omega) power
    by_contra greatest
    have top : t = 971 := by omega
    have low := (le_div_iff₀ (two_zpow_pos t)).mp nearest.low
    rw [top, show (971 : ℤ) = 1 + 970 by rfl, two_zpow_add] at low
    generalize (2 : ℚ) ^ (970 : ℤ) = unit at low below
    push_cast at low
    linarith

end BoxOffice.Number
