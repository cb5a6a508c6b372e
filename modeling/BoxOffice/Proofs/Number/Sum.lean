import BoxOffice.Proofs.Number.Packing
import Mathlib.Algebra.Group.Nat.Defs

/-!
# Sums of doubles stay below sums of bounds

A double that is neither negative nor infinite is a natural number of *units* of `2 ^ -1074`.

* `UnitsAtMost`, `AtMost` -- the number is not negative, and has at most so many units;
* `rounded_le`, `round_atMost` -- rounding leads over no bound with enough trailing zeros (`IsBound`);
* `AtMost.unpack`, `atMost_pack` -- a double and the number that it packs have the same units;
* `AtMost.add` -- so the sum of two doubles is at most the sum of such bounds.
-/

namespace BoxOffice.Number

open Float.Model (UnpackedFloat Format totalExponent)
open Float.Model.UnpackedFloat

/-! ## 1. Units -/

/-- The magnitude `m · 2 ^ e` in units of `2 ^ -1074`. -/
def units (m : Nat) (e : Int) : Nat := m * 2 ^ (e + 1074).toNat

/-- The number is not negative and has at most `B` units. -/
def UnitsAtMost (B : Nat) : UnpackedFloat → Prop
  | .zero .positive => True
  | .finite .positive m e _ => -1074 ≤ e ∧ units m e ≤ B
  | _ => False

theorem UnitsAtMost.mono {B C : Nat} (h : B ≤ C) : ∀ {u : UnpackedFloat}, UnitsAtMost B u →
    UnitsAtMost C u
  | .zero .positive, _ => trivial
  | .finite .positive _ _ _, k => ⟨k.1, Nat.le_trans k.2 h⟩
  | .zero .negative, k | .finite .negative _ _ _, k | .infinity _, k | .notANumber, k => k

/-- Moving bits from the exponent to the mantissa changes no number. -/
theorem units_shiftLeft (m s : Nat) {e : Int} (h : -1074 ≤ e - s) :
    units (m <<< s) (e - s) = units m e := by
  have exponent : (e + 1074).toNat = s + (e - s + 1074).toNat := by omega
  rw [units, units, Nat.shiftLeft_eq, Nat.mul_assoc, ← Nat.pow_add, exponent]

/-- Moving bits from the mantissa to the exponent loses what is shifted out. -/
theorem units_shiftRight_le (m k : Nat) {e : Int} (h : -1074 ≤ e) :
    units (m / 2 ^ k) (e + k) ≤ units m e := by
  have exponent : (e + k + 1074).toNat = k + (e + 1074).toNat := by omega
  rw [units, units, exponent, Nat.pow_add, ← Nat.mul_assoc]
  exact Nat.mul_le_mul_right _ (Nat.div_mul_le_self m (2 ^ k))

/-! ## 2. Shifting and rounding -/

theorem mantissa_shiftRight (em : ExtendedMantissa) : ∀ k : Nat,
    (em >>> k).mantissa = em.mantissa / 2 ^ k
  | 0 => (Nat.div_one _).symm
  | k + 1 => by
    have step : (em >>> (k + 1)).mantissa = (em >>> k).mantissa / 2 := rfl
    rw [step, mantissa_shiftRight em k, Nat.div_div_eq_div_mul, Nat.pow_succ]

/-- Nothing is lost if only zeros are shifted out. -/
theorem shiftRight_exact {m : Nat} : ∀ {k : Nat}, 2 ^ k ∣ m →
    (⟨m, false, false⟩ : ExtendedMantissa) >>> k = ⟨m / 2 ^ k, false, false⟩
  | 0, _ => by
    rw [Nat.pow_zero, Nat.div_one]
    rfl
  | k + 1, h => by
    have half : 2 ∣ m / 2 ^ k := by
      obtain ⟨c, rfl⟩ := h
      rw [Nat.pow_succ, Nat.mul_assoc, Nat.mul_div_cancel_left _ (Nat.two_pow_pos k)]
      exact ⟨c, rfl⟩
    have before : 2 ^ k ∣ m := Nat.dvd_trans (Nat.pow_dvd_pow 2 (Nat.le_succ k)) h
    have step : (⟨m, false, false⟩ : ExtendedMantissa) >>> (k + 1) =
        ((⟨m, false, false⟩ : ExtendedMantissa) >>> k).shiftRightOne := rfl
    rw [step, shiftRight_exact before, ExtendedMantissa.shiftRightOne, Nat.div_div_eq_div_mul,
      Nat.pow_succ, Nat.mod_eq_zero_of_dvd half]
    rfl

theorem roundedMantissa_le (em : ExtendedMantissa) : em.roundedMantissa ≤ em.mantissa + 1 := by
  obtain ⟨m, r, s⟩ := em
  have parity : m % 2 < 2 := Nat.mod_lt m (by decide)
  cases r <;> cases s <;>
    simp only [ExtendedMantissa.roundedMantissa, ExtendedMantissa.accuracy,
      Accuracy.roundToNearestEven] <;> omega

/-- **Rounding leads over no number that is there.** -/
theorem rounded_le {m b k : Nat} (h : m ≤ b * 2 ^ k) :
    ((⟨m, false, false⟩ : ExtendedMantissa) >>> k).roundedMantissa ≤ b := by
  by_cases whole : 2 ^ k ∣ m
  · rw [shiftRight_exact whole]
    exact Nat.div_le_of_le_mul (by rwa [Nat.mul_comm])
  · have ne : m ≠ b * 2 ^ k := fun e => whole ⟨b, by rw [e, Nat.mul_comm]⟩
    have below : m / 2 ^ k < b := (Nat.div_lt_iff_lt_mul (Nat.two_pow_pos k)).mpr (by omega)
    have rounded := roundedMantissa_le ((⟨m, false, false⟩ : ExtendedMantissa) >>> k)
    rw [mantissa_shiftRight] at rounded
    exact Nat.le_trans rounded below

/-! ## 3. Rounding to doubles -/

/-- The exponent that a number has as a double. -/
def goal (m : Nat) (e : Int) : Int := Format.binary64.targetExponent (totalExponent m e)

theorem goal_eq (m : Nat) (e : Int) : goal m e = max ((m.log2 : Int) + e - 52) (-1074) := by
  have bits : (Format.binary64.mantissaBits : Int) = 53 := rfl
  have least : Format.binary64.minExponent = -1074 := rfl
  rw [goal, Format.targetExponent, totalExponent, bits, least]
  omega

/-- A number of units that is a multiple of `2 ^ t`, by less than twenty-two bits. -/
def IsBound (t B : Nat) : Prop := 2 ^ t ∣ B ∧ B < 2 ^ (t + 22)

variable {t B : Nat}

/-- Below a bound every exponent of a double divides it. -/
theorem goal_le {m : Nat} {e : Int} (bound : IsBound t B) (pos : 0 < m) (low : -1074 ≤ e)
    (h : units m e ≤ B) : goal m e + 1074 ≤ t := by
  have log : 2 ^ (m.log2 + (e + 1074).toNat) < 2 ^ (t + 22) := by
    refine Nat.lt_of_le_of_lt ?_ (Nat.lt_of_le_of_lt h bound.2)
    rw [Nat.pow_add]
    exact Nat.mul_le_mul_right _ (Nat.log2_self_le (Nat.ne_of_gt pos))
  have small := (Nat.pow_lt_pow_iff_right (by decide)).mp log
  rw [goal_eq]
  omega

/-- **Rounding leads over no bound.** -/
theorem units_roundedMantissa_le {m k : Nat} {e : Int} (bound : 2 ^ t ∣ B) (low : -1074 ≤ e)
    (small : e + k + 1074 ≤ t) (h : units m e ≤ B) :
    units ((⟨m, false, false⟩ : ExtendedMantissa) >>> k).roundedMantissa (e + k) ≤ B := by
  obtain ⟨c, rfl⟩ := bound
  obtain ⟨s, rfl⟩ : ∃ s, t = s + (k + (e + 1074).toNat) :=
    ⟨t - (k + (e + 1074).toNat), by omega⟩
  have exponent : (e + k + 1074).toNat = k + (e + 1074).toNat := by omega
  have rounded : ((⟨m, false, false⟩ : ExtendedMantissa) >>> k).roundedMantissa ≤ 2 ^ s * c := by
    refine rounded_le (Nat.le_of_mul_le_mul_right ?_ (Nat.two_pow_pos (e + 1074).toNat))
    rw [Nat.pow_add, Nat.pow_add] at h
    calc m * 2 ^ (e + 1074).toNat ≤ _ := h
      _ = _ := by ac_rfl
  rw [units, exponent]
  calc _ ≤ 2 ^ s * c * 2 ^ (k + (e + 1074).toNat) := Nat.mul_le_mul_right _ rounded
    _ = 2 ^ (s + (k + (e + 1074).toNat)) * c := by rw [Nat.pow_add 2 s]; ac_rfl

/-- A number below a bound stays below it as a double. -/
theorem roundWithAccuracy_atMost {m : Nat} {e : Int} (bound : IsBound t B) (pos : 0 < m)
    (low : -1074 ≤ e) (small : e + 1074 ≤ t) (h : units m e ≤ B) :
    UnitsAtMost B (roundWithAccuracy Format.binary64 .positive m e .exact) := by
  have below := goal_le bound pos low h
  -- the first shift rounds, the second one only makes room for a carry
  have first := units_roundedMantissa_le (k := (goal m e - e).toNat) bound.1 low (by omega) h
  have low' : -1074 ≤ e + (goal m e - e).toNat := by omega
  obtain ⟨r, hr⟩ : ∃ r, r =
    ((⟨m, false, false⟩ : ExtendedMantissa) >>> (goal m e - e).toNat).roundedMantissa := ⟨_, rfl⟩
  obtain ⟨e', he'⟩ : ∃ e' : Int, e' = e + (goal m e - e).toNat := ⟨_, rfl⟩
  rw [← hr, ← he'] at first
  rw [← he'] at low'
  have second := units_shiftRight_le r (goal r e' - e').toNat low'
  rw [← mantissa_shiftRight ⟨r, false, false⟩] at second
  have rounded : roundWithAccuracy Format.binary64 .positive m e .exact =
      if zero : ((⟨r, false, false⟩ : ExtendedMantissa) >>> (goal r e' - e').toNat).mantissa = 0 then
        .zero .positive
      else .finite .positive _ (e' + (goal r e' - e').toNat) (Nat.pos_of_ne_zero zero) := by
    rw [hr, he']
    rfl
  rw [rounded]
  by_cases zero : ((⟨r, false, false⟩ : ExtendedMantissa) >>> (goal r e' - e').toNat).mantissa = 0
  · rw [dif_pos zero]
    trivial
  · rw [dif_neg zero]
    exact ⟨by omega, Nat.le_trans second first⟩

/-- A number below a bound stays below it as a double, whatever its exponent is. -/
theorem round_atMost {m : Nat} {e : Int} (bound : IsBound t B) (pos : 0 < m) (low : -1074 ≤ e)
    (h : units m e ≤ B) : UnitsAtMost B (UnpackedFloat.round Format.binary64 .positive m e) := by
  have below := goal_le bound pos low h
  have least : -1074 ≤ goal m e := by rw [goal_eq]; omega
  have same := units_shiftLeft m (e - goal m e).toNat (show -1074 ≤ e - (e - goal m e).toNat by omega)
  have pos' : 0 < m <<< (e - goal m e).toNat := by
    rw [Nat.shiftLeft_eq]
    exact Nat.mul_pos pos (Nat.two_pow_pos _)
  have unfold : UnpackedFloat.round Format.binary64 .positive m e =
      roundWithAccuracy Format.binary64 .positive
      (m <<< (e - goal m e).toNat) (e - (e - goal m e).toNat) .exact := rfl
  rw [unfold]
  exact roundWithAccuracy_atMost bound pos' (by omega) (by omega) (Nat.le_trans (Nat.le_of_eq same) h)

/-! ## 4. Sums -/

theorem units_add (m n : Nat) (e : Int) : units (m + n) e = units m e + units n e :=
  Nat.add_mul m n _

theorem normalize_of_pos {m : Nat} (pos : 0 < m) (e : Int) :
    UnpackedFloat.normalize Format.binary64 m e .positive = UnpackedFloat.round Format.binary64 .positive m e := by
  have sign : compare (m : Int) 0 = .gt := Int.compare_eq_gt.mpr (Int.natCast_pos.mpr pos)
  rw [UnpackedFloat.normalize, sign]
  rfl

/-- **The sum of two numbers is at most the sum of their bounds.** -/
theorem UnitsAtMost.add {C : Nat} (bound : IsBound t (B + C)) : ∀ {x y : UnpackedFloat},
    UnitsAtMost B x → UnitsAtMost C y → UnitsAtMost (B + C) (x.add Format.binary64 y)
  | .zero .positive, .zero .positive, _, _ => trivial
  | .zero .positive, .finite .positive _ _ _, _, hy => hy.mono (Nat.le_add_left C B)
  | .finite .positive _ _ _, .zero .positive, hx, _ => hx.mono (Nat.le_add_right B C)
  | .finite .positive m₁ e₁ pos₁, .finite .positive m₂ e₂ pos₂, hx, hy => by
    obtain ⟨low₁, le₁⟩ := hx
    obtain ⟨low₂, le₂⟩ := hy
    have first := units_shiftLeft m₁ (e₁ - min e₁ e₂).toNat (e := e₁) (by omega)
    have second := units_shiftLeft m₂ (e₂ - min e₁ e₂).toNat (e := e₂) (by omega)
    have exponent₁ : e₁ - (e₁ - min e₁ e₂).toNat = min e₁ e₂ := by omega
    have exponent₂ : e₂ - (e₂ - min e₁ e₂).toNat = min e₁ e₂ := by omega
    rw [exponent₁] at first
    rw [exponent₂] at second
    have pos : 0 < m₁ <<< (e₁ - min e₁ e₂).toNat + m₂ <<< (e₂ - min e₁ e₂).toNat := by
      rw [Nat.shiftLeft_eq]
      exact Nat.add_pos_left (Nat.mul_pos pos₁ (Nat.two_pow_pos _)) _
    have total : units (m₁ <<< (e₁ - min e₁ e₂).toNat + m₂ <<< (e₂ - min e₁ e₂).toNat) (min e₁ e₂) ≤
        B + C := by
      rw [units_add, first, second]
      exact Nat.add_le_add le₁ le₂
    have sum : (UnpackedFloat.finite .positive m₁ e₁ pos₁).add Format.binary64
        (.finite .positive m₂ e₂ pos₂) = UnpackedFloat.normalize Format.binary64
          ((m₁ <<< (e₁ - min e₁ e₂).toNat + m₂ <<< (e₂ - min e₁ e₂).toNat : Nat) : Int)
          (min e₁ e₂) .positive := rfl
    rw [sum, normalize_of_pos pos]
    exact round_atMost bound pos (by omega) total
  | .finite .negative _ _ _, _, hx, _ | .zero .negative, _, hx, _ | .infinity _, _, hx, _
  | .notANumber, _, hx, _ => hx.elim
  | _, .finite .negative _ _ _, _, hy | _, .zero .negative, _, hy | _, .infinity _, _, hy
  | _, .notANumber, _, hy => hy.elim

/-! ## 5. Doubles -/

/-- **The double is not negative and has at most `B` units.** -/
def AtMost (B : Nat) (x : Float) : Prop :=
  ∃ d, Binary64.ofFloat x = .finite false d ∧ -1074 ≤ d.q ∧ units d.m d.q ≤ B

theorem units_ofFields {e f : Nat} : -1074 ≤ (Dyadic.ofFields e f).q ∧
    units (Dyadic.ofFields e f).m (Dyadic.ofFields e f).q =
      if e = 0 then f else (leadingBit + f) * 2 ^ (e - 1) := by
  unfold Dyadic.ofFields
  split
  · exact ⟨Int.le_refl _, Nat.mul_one f⟩
  · have exponent : ((e : Int) - 1075 + 1074).toNat = e - 1 := by omega
    refine ⟨by dsimp only; omega, ?_⟩
    rw [units, exponent]

/-- The double with an exponent and a fraction is at most the number that they give. -/
theorem atMost_packComponents {e f : Nat} (he : e < 2047) (hf : f < leadingBit) {x : Float}
    (bits : x.toBits.toBitVec = packComponents Format.binary64 .positive (.ofNat 11 e) (.ofNat 52 f))
    (h : (if e = 0 then f else (leadingBit + f) * 2 ^ (e - 1)) ≤ B) : AtMost B x := by
  have number : x.toBits.toNat = signBit (signOf false) + leadingBit * e + f := by
    rw [← UInt64.toNat_toBitVec, bits, toNat_packComponents, toNat_exponent he, toNat_fraction hf]
    rfl
  obtain ⟨low, value⟩ := @units_ofFields e f
  exact ⟨_, ofFloat_fields number he hf, low, value ▸ h⟩

/-- The exponent and the fraction of a number that is packed. -/
theorem pack_finite {m : Nat} {e : Int} (pos : 0 < m) (low : -1074 ≤ e)
    (small : (e + 1074).toNat < 2046) :
    UnpackedFloat.pack Format.binary64 (.finite .positive m e pos) =
      packComponents Format.binary64 .positive
        (.ofNat 11 (if m.log2 = 52 then (e + 1074).toNat + 1 else 0)) (.ofNat 52 (m % leadingBit)) := by
  have bias : (Format.binary64.exponentBias : Int) = 1023 := rfl
  have biased : (e + Format.binary64.exponentBias + (52 : Nat)).toNat = (e + 1074).toNat + 1 := by
    omega
  have finite : ¬ 2 ^ 11 ≤ (e + 1074).toNat + 1 + 1 := by omega
  have fraction : BitVec.ofNat 52 (m % leadingBit) = BitVec.ofNat 52 m := by
    refine BitVec.eq_of_toNat_eq ?_
    rw [BitVec.toNat_ofNat, BitVec.toNat_ofNat]
    exact Nat.mod_mod m (2 ^ 52)
  have whole : Format.binary64.mantissaBits = 53 := rfl
  have packed : UnpackedFloat.pack Format.binary64 (.finite .positive m e pos) =
      if 2 ^ 11 ≤ (e + Format.binary64.exponentBias + (52 : Nat)).toNat + 1 then
        packedInfinity Format.binary64 .positive
      else if m.log2 + 1 = Format.binary64.mantissaBits then
        packComponents Format.binary64 .positive
          (.ofNat 11 (e + Format.binary64.exponentBias + (52 : Nat)).toNat) (.ofNat 52 m)
      else packComponents Format.binary64 .positive 0#11 (.ofNat 52 m) := rfl
  rw [packed, biased, if_neg finite, whole, fraction]
  by_cases normal : m.log2 = 52
  · rw [if_pos normal, if_pos (congrArg (· + 1) normal)]
  · rw [if_neg normal, if_neg fun h => normal (Nat.succ.inj h)]

/-- **A number that is packed into a double is at most what it was.** -/
theorem atMost_pack {w : Nat} (hw : w ≤ 2046) (hB : B < 2 ^ w) : ∀ {u : UnpackedFloat},
    UnitsAtMost B u → AtMost B (.ofModel (.pack u))
  | .zero .positive, _ =>
    atMost_packComponents (e := 0) (f := 0) (by decide) (by decide) rfl (Nat.zero_le B)
  | .finite .positive m e pos, h => by
    obtain ⟨low, le⟩ := h
    have below : (e + 1074).toNat < w := by
      refine (Nat.pow_lt_pow_iff_right (by decide)).mp (Nat.lt_of_le_of_lt ?_ hB)
      exact Nat.le_trans (Nat.le_mul_of_pos_left _ pos) le
    have packed := pack_finite pos low (Nat.lt_of_lt_of_le below hw)
    refine atMost_packComponents (f := m % leadingBit) ?_ (Nat.mod_lt m (by decide)) packed ?_
    · split <;> omega
    · by_cases normal : m.log2 = 52
      · have leading : leadingBit + m % leadingBit = m := by
          have least : 2 ^ 52 ≤ m := (Nat.le_log2 (Nat.ne_of_gt pos)).mp (Nat.le_of_eq normal.symm)
          have most : m < 2 ^ 53 := (Nat.log2_lt (Nat.ne_of_gt pos)).mp (by omega)
          unfold leadingBit
          omega
        rw [if_pos normal, if_neg (Nat.succ_ne_zero _), leading, Nat.add_sub_cancel]
        exact le
      · rw [if_neg normal, if_pos rfl]
        calc m % leadingBit ≤ m := Nat.mod_le _ _
          _ ≤ m * 2 ^ (e + 1074).toNat := Nat.le_mul_of_pos_right m (Nat.two_pow_pos _)
          _ ≤ B := le
  | .finite .negative _ _ _, h | .zero .negative, h | .infinity _, h | .notANumber, h => h.elim

/-- The number of an exponent and a fraction. -/
theorem unitsAtMost_ofFields {e f : Nat} (h : units (Dyadic.ofFields e f).m (Dyadic.ofFields e f).q ≤ B) :
    UnitsAtMost B (ofFields .positive e f) := by
  unfold ofFields
  rcases ofMagnitude_eq .positive (Dyadic.ofFields e f).m (Dyadic.ofFields e f).q with ⟨_, number⟩ | ⟨_, number⟩
  · rw [number]
    trivial
  · rw [number]
    exact ⟨units_ofFields.1, h⟩

/-- **A double is unpacked into the number that it is.** -/
theorem AtMost.unpack {x : Float} (h : AtMost B x) : UnitsAtMost B x.toModel.unpack := by
  obtain ⟨d, parts, _, le⟩ := h
  obtain ⟨e, f, he, hf, rfl, rfl⟩ := eq_stored parts
  rw [unpack_stored ⟨_, e, f, he, hf, rfl⟩]
  exact unitsAtMost_ofFields le

/-- **The sum of two doubles is at most the sum of their bounds.** -/
theorem AtMost.add {C : Nat} {x y : Float} (bound : IsBound t (B + C)) (ht : t + 22 ≤ 2046)
    (hx : AtMost B x) (hy : AtMost C y) : AtMost (B + C) (x + y) :=
  atMost_pack ht bound.2 (UnitsAtMost.add bound hx.unpack hy.unpack)

end BoxOffice.Number
