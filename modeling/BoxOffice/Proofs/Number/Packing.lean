import BoxOffice.Number.Binary64
import Mathlib.Algebra.Group.Nat.Defs

/-!
# Doubles and the numbers that they store

* `ofMagnitude s m e` -- the number `± m · 2 ^ e`;
* `pack_ofFields`, `unpack_packComponents` -- the number of an exponent field and a fraction field is packed into them,
  and unpacked from them;
* `Fits` -- the numbers that there are fields for; `Canonical`, `fits_of_canonical` -- which they are, by mantissa and
  exponent;
* `stored u` -- the double of such a number; `unpack_stored` -- it is unpacked into it, so products, quotients and
  negations of doubles are those of the numbers;
* `eq_stored` -- every finite double is the stored number of its parts.
-/

namespace BoxOffice.Number

open Float.Model (UnpackedFloat Format)
open Float.Model.UnpackedFloat

/-! ## 1. Numbers and their fields -/

/-- The number `± m · 2 ^ e`. -/
def ofMagnitude (s : Sign) (m : Nat) (e : Int) : UnpackedFloat :=
  if zero : m = 0 then .zero s else .finite s m e (Nat.pos_of_ne_zero zero)

theorem finite_congr (s : Sign) {m n : Nat} {e f : Int} {p : 0 < m} {q : 0 < n} (mantissa : m = n)
    (exponent : e = f) : UnpackedFloat.finite s m e p = .finite s n f q := by
  subst mantissa exponent
  rfl

theorem ofMagnitude_of_pos (s : Sign) {m : Nat} (e : Int) (pos : 0 < m) :
    ofMagnitude s m e = .finite s m e pos :=
  dif_neg (Nat.ne_of_gt pos)

/-- A number is zero or not. -/
theorem ofMagnitude_eq (s : Sign) (m : Nat) (e : Int) :
    (m = 0 ∧ ofMagnitude s m e = .zero s) ∨ ∃ pos, ofMagnitude s m e = .finite s m e pos := by
  rcases Nat.eq_zero_or_pos m with rfl | pos
  · exact Or.inl ⟨rfl, rfl⟩
  · exact Or.inr ⟨pos, ofMagnitude_of_pos s e pos⟩

/-- The number with a sign, a biased exponent and a fraction. -/
def ofFields (s : Sign) (e f : Nat) : UnpackedFloat :=
  ofMagnitude s (Dyadic.ofFields e f).m (Dyadic.ofFields e f).q

theorem ofFields_zero (s : Sign) (f : Nat) : ofFields s 0 f = ofMagnitude s f (-1074) := rfl

theorem ofFields_of_pos (s : Sign) {e : Nat} (f : Nat) (pos : 0 < e) :
    ofFields s e f = .finite s (leadingBit + f) ((e : Int) - 1075) (Nat.add_pos_left (by decide) f) := by
  have normal : Dyadic.ofFields e f = ⟨leadingBit + f, (e : Int) - 1075, f == 0 && decide (1 < e)⟩ :=
    if_neg (Nat.ne_of_gt pos)
  rw [ofFields, normal]
  exact ofMagnitude_of_pos s _ _

/-- The numbers that there are fields for. -/
def Fits (u : UnpackedFloat) : Prop := ∃ s e f, e < 2047 ∧ f < leadingBit ∧ u = ofFields s e f

/-! ## 2. Packing and unpacking -/

/-- The weight of the sign bit. -/
def signBit : Sign → Nat
  | .positive => 0
  | .negative => 0x8000000000000000

theorem toNat_packComponents (s : Sign) (e : BitVec 11) (f : BitVec 52) :
    (packComponents Format.binary64 s e f).toNat = signBit s + leadingBit * e.toNat + f.toNat := by
  have small : e.toNat < 2 ^ 11 := e.isLt
  have low : f.toNat < 2 ^ 52 := f.isLt
  have parts : (packComponents Format.binary64 s e f).toNat =
      (s.toBitVec ++ e).toNat <<< 52 ||| f.toNat := BitVec.toNat_append _ _
  have sign : (s.toBitVec ++ e).toNat = s.toBitVec.toNat * 2 ^ 11 + e.toNat := by
    rw [BitVec.toNat_append, ← Nat.shiftLeft_add_eq_or_of_lt small, Nat.shiftLeft_eq]
  rw [parts, sign, ← Nat.shiftLeft_add_eq_or_of_lt low, Nat.shiftLeft_eq]
  unfold leadingBit
  cases s
  · show (1 * 2 ^ 11 + e.toNat) * 2 ^ 52 + f.toNat = 0x8000000000000000 + _ + f.toNat
    omega
  · show (0 * 2 ^ 11 + e.toNat) * 2 ^ 52 + f.toNat = 0 + _ + f.toNat
    omega

theorem toNat_exponent {e : Nat} (he : e < 2047) : (BitVec.ofNat 11 e).toNat = e := by
  rw [BitVec.toNat_ofNat, Nat.mod_eq_of_lt (by omega)]

theorem toNat_fraction {f : Nat} (hf : f < leadingBit) : (BitVec.ofNat 52 f).toNat = f := by
  rw [BitVec.toNat_ofNat]
  exact Nat.mod_eq_of_lt hf

theorem ofBitVec_unpackSign (s : Sign) (e : BitVec 11) (f : BitVec 52) :
    Sign.ofBitVec (unpackSign (packComponents Format.binary64 s e f)) = s := by
  delta unpackSign packComponents
  rw [BitVec.extractLsb, BitVec.extractLsb'_append_eq_of_le (by decide),
    BitVec.extractLsb'_append_eq_of_le (by decide)]
  cases s <;> rfl

/-- **A number is unpacked from its fields.** -/
theorem unpack_packComponents (s : Sign) {e : BitVec 11} (f : BitVec 52) (finite : e ≠ -1#11) :
    UnpackedFloat.unpack Format.binary64 (packComponents Format.binary64 s e f) = ofFields s e.toNat f.toNat := by
  have bias : (Format.binary64.exponentBias : Int) + (52 : Nat) = 1075 := rfl
  have exponent : unpackExponent (packComponents Format.binary64 s e f) = e := unpackExponent_packComponents
  have fraction : unpackMantissa (packComponents Format.binary64 s e f) = f := unpackMantissa_packComponents
  delta UnpackedFloat.unpack
  dsimp only
  rw [exponent, ofBitVec_unpackSign, bias, if_neg finite]
  by_cases subnormal : e = 0#11
  · have zero : e.toNat = 0 := by rw [subnormal]; rfl
    rw [if_pos subnormal, zero, ofFields_zero]
    by_cases none : f = 0#52
    · rw [dif_pos (fraction.trans none), none]
      rfl
    · have pos : 0 < f.toNat := Nat.pos_of_ne_zero fun h => none (BitVec.eq_of_toNat_eq h)
      rw [dif_neg fun h => none (fraction.symm.trans h), ofMagnitude_of_pos s _ pos]
      exact finite_congr s (congrArg BitVec.toNat fraction) rfl
  · have pos : 0 < e.toNat := Nat.pos_of_ne_zero fun zero => subnormal (BitVec.eq_of_toNat_eq zero)
    have bits : (1#1 ++ unpackMantissa (packComponents Format.binary64 s e f)).toNat = leadingBit + f.toNat := by
      rw [fraction, BitVec.toNat_append, ← Nat.shiftLeft_add_eq_or_of_lt f.isLt]
      rfl
    rw [if_neg subnormal, ofFields_of_pos s _ pos]
    exact finite_congr s bits rfl

/-- **A number is packed into its fields.** -/
theorem pack_ofFields (s : Sign) {e f : Nat} (he : e < 2047) (hf : f < leadingBit) :
    UnpackedFloat.pack Format.binary64 (ofFields s e f) =
      packComponents Format.binary64 s (.ofNat 11 e) (.ofNat 52 f) := by
  have finite : ∀ {m : Nat} {q : Int} (pos : 0 < m), (q + 1075).toNat < 2047 →
      UnpackedFloat.pack Format.binary64 (.finite s m q pos) =
        if m.log2 + 1 = 53 then
          packComponents Format.binary64 s (.ofNat 11 (q + 1075).toNat) (.ofNat 52 m)
        else packComponents Format.binary64 s 0#11 (.ofNat 52 m) := by
    intro m q pos small
    have biased : q + (Format.binary64.exponentBias : Int) + (52 : Nat) = q + 1075 := by
      have bias : (Format.binary64.exponentBias : Int) = 1023 := rfl
      omega
    have packed : UnpackedFloat.pack Format.binary64 (.finite s m q pos) =
        if 2 ^ 11 ≤ (q + (Format.binary64.exponentBias : Int) + (52 : Nat)).toNat + 1 then
          packedInfinity Format.binary64 s
        else if m.log2 + 1 = 53 then
          packComponents Format.binary64 s
            (.ofNat 11 (q + (Format.binary64.exponentBias : Int) + (52 : Nat)).toNat) (.ofNat 52 m)
        else packComponents Format.binary64 s 0#11 (.ofNat 52 m) := rfl
    rw [packed, biased, if_neg (by omega)]
  rcases Nat.eq_zero_or_pos e with rfl | pos
  · rw [ofFields_zero]
    rcases Nat.eq_zero_or_pos f with rfl | some_bit
    · rfl
    · have few : f.log2 < 52 := (Nat.log2_lt (Nat.ne_of_gt some_bit)).mpr hf
      rw [ofMagnitude_of_pos s _ some_bit, finite some_bit (by decide), if_neg (by omega)]
  · have log : (leadingBit + f).log2 = 52 := by
      unfold leadingBit at hf ⊢
      refine (Nat.log2_eq_iff (by omega)).mpr ⟨by omega, by omega⟩
    have exponent : ((e : Int) - 1075 + 1075).toNat = e := by omega
    have fraction : BitVec.ofNat 52 (leadingBit + f) = BitVec.ofNat 52 f := by
      refine BitVec.eq_of_toNat_eq ?_
      rw [BitVec.toNat_ofNat, BitVec.toNat_ofNat]
      exact Nat.add_mod_left leadingBit f
    rw [ofFields_of_pos s f pos, finite _ (by omega), log, if_pos rfl, exponent, fraction]

/-- **What is packed is unpacked.** -/
theorem unpack_pack {u : UnpackedFloat} (h : Fits u) :
    UnpackedFloat.unpack Format.binary64 (UnpackedFloat.pack Format.binary64 u) = u := by
  obtain ⟨s, e, f, he, hf, rfl⟩ := h
  rw [pack_ofFields s he hf, unpack_packComponents s _ ?_, toNat_exponent he, toNat_fraction hf]
  intro ones
  have all : (BitVec.ofNat 11 e).toNat = 2047 := by
    rw [ones]
    rfl
  rw [toNat_exponent he] at all
  omega

/-! ## 3. The numbers that fit -/

/-- `m · 2 ^ q` is a double above zero, as long as its exponent fits. -/
structure Canonical (m : Nat) (q : Int) : Prop where
  pos : 0 < m
  bits : m < 2 ^ 53
  least : -1074 ≤ q
  full : q = -1074 ∨ 2 ^ 52 ≤ m

/-- The magnitude that fields give. -/
theorem canonical_ofFields {e f : Nat} (hf : f < leadingBit) (pos : 0 < (Dyadic.ofFields e f).m) :
    Canonical (Dyadic.ofFields e f).m (Dyadic.ofFields e f).q := by
  unfold leadingBit at hf
  unfold Dyadic.ofFields leadingBit at *
  by_cases zero : e = 0
  · rw [if_pos zero] at pos ⊢
    exact ⟨pos, by dsimp only; omega, Int.le_refl _, Or.inl rfl⟩
  · rw [if_neg zero] at pos ⊢
    exact ⟨pos, by dsimp only; omega, by dsimp only; omega, Or.inr (by dsimp only; omega)⟩

/-- **A canonical magnitude with a small exponent fits.** -/
theorem fits_of_canonical (s : Sign) {m : Nat} {q : Int} (h : Canonical m q) (le : q ≤ 971) :
    Fits (ofMagnitude s m q) := by
  have bits := h.bits
  have least := h.least
  by_cases full : 2 ^ 52 ≤ m
  · refine ⟨s, (q + 1075).toNat, m - leadingBit, by omega, ?_, ?_⟩
    · unfold leadingBit
      omega
    · have mantissa : leadingBit + (m - leadingBit) = m := by
        unfold leadingBit
        omega
      have exponent : ((q + 1075).toNat : Int) - 1075 = q := by omega
      rw [ofFields_of_pos s _ (by omega), ofMagnitude_of_pos s q h.pos]
      exact finite_congr s mantissa.symm exponent.symm
  · refine ⟨s, 0, m, by decide, ?_, ?_⟩
    · unfold leadingBit
      omega
    · rw [h.full.resolve_right full, ofFields_zero]

theorem fits_zero (s : Sign) : Fits (.zero s) := ⟨s, 0, 0, by decide, by decide, rfl⟩

/-! ## 4. Doubles -/

/-- The double that stores a number. -/
def stored (u : UnpackedFloat) : Float := .ofModel (.pack u)

theorem unpack_stored {u : UnpackedFloat} (h : Fits u) : (stored u).toModel.unpack = u := unpack_pack h

variable {u v : UnpackedFloat}

theorem stored_mul (hu : Fits u) (hv : Fits v) :
    stored u * stored v = stored (UnpackedFloat.mul Format.binary64 u v) := by
  have product : stored u * stored v =
      stored (UnpackedFloat.mul Format.binary64 (stored u).toModel.unpack (stored v).toModel.unpack) := rfl
  rw [product, unpack_stored hu, unpack_stored hv]

theorem stored_div (hu : Fits u) (hv : Fits v) :
    stored u / stored v = stored (UnpackedFloat.div Format.binary64 u v) := by
  have quotient : stored u / stored v =
      stored (UnpackedFloat.div Format.binary64 (stored u).toModel.unpack (stored v).toModel.unpack) := rfl
  rw [quotient, unpack_stored hu, unpack_stored hv]

theorem isInf_stored (hu : Fits u) : (stored u).isInf = false := by
  have infinite : (stored u).isInf = (stored u).toModel.unpack.isInf := rfl
  rw [infinite, unpack_stored hu]
  obtain ⟨s, e, f, _, _, rfl⟩ := hu
  unfold ofFields
  rcases ofMagnitude_eq s (Dyadic.ofFields e f).m (Dyadic.ofFields e f).q with ⟨_, number⟩ | ⟨_, number⟩
  · rw [number]
    rfl
  · rw [number]
    rfl

/-- The sign of a double. -/
def signOf (negative : Bool) : Sign := if negative then .negative else .positive

/-- The parts of a double with the exponent and the fraction given. -/
theorem ofFloat_fields {x : Float} {negative : Bool} {e f : Nat}
    (bits : x.toBits.toNat = signBit (signOf negative) + leadingBit * e + f) (he : e < 2047) (hf : f < leadingBit) :
    Binary64.ofFloat x = .finite negative (.ofFields e f) := by
  have weight : ∃ b ≤ 1, signBit (signOf negative) = b * 0x8000000000000000 ∧ negative = decide (b = 1) := by
    cases negative with
    | true => exact ⟨1, by decide, rfl, rfl⟩
    | false => exact ⟨0, by decide, rfl, rfl⟩
  obtain ⟨b, small, weight, rfl⟩ := weight
  rw [weight] at bits
  have sign : decide (0x8000000000000000 ≤ x.toBits.toNat) = decide (b = 1) := by
    unfold leadingBit at *
    exact decide_eq_decide.mpr ⟨fun _ => by omega, fun _ => by omega⟩
  have exponent : x.toBits.toNat / leadingBit % 0x800 = e := by
    unfold leadingBit at *
    omega
  have fraction : x.toBits.toNat % leadingBit = f := by
    unfold leadingBit at *
    omega
  have finite : e ≠ 2047 := by omega
  rw [Binary64.ofFloat]
  simp only [exponent, fraction, sign, if_neg finite]

/-- Doubles with the same bits are the same. -/
theorem eq_of_toBits : ∀ {x y : Float}, x.toModel.toBits = y.toModel.toBits → x = y
  | ⟨⟨_, _⟩⟩, ⟨⟨_, _⟩⟩, rfl => rfl

/-- **Every finite double stores the number of its parts.** -/
theorem eq_stored {x : Float} {negative : Bool} {d : Dyadic} (parts : Binary64.ofFloat x = .finite negative d) :
    ∃ e f, e < 2047 ∧ f < leadingBit ∧ d = .ofFields e f ∧ x = stored (ofFields (signOf negative) e f) := by
  unfold Binary64.ofFloat at parts
  simp only at parts
  split at parts
  · split at parts <;> cases parts
  · next finite =>
    injection parts with sign fields
    have he : x.toBits.toNat / leadingBit % 2048 < 2047 := by omega
    have hf : x.toBits.toNat % leadingBit < leadingBit := Nat.mod_lt _ (by decide)
    refine ⟨_, _, he, hf, fields.symm, eq_of_toBits (UInt64.toBitVec_inj.mp (BitVec.eq_of_toNat_eq ?_))⟩
    have packed : (stored (ofFields (signOf negative) (x.toBits.toNat / leadingBit % 2048)
        (x.toBits.toNat % leadingBit))).toModel.toBits.toBitVec =
          UnpackedFloat.pack Format.binary64 (ofFields (signOf negative) (x.toBits.toNat / leadingBit % 2048)
            (x.toBits.toNat % leadingBit)) := rfl
    have all : x.toBits.toNat < 2 ^ 64 := x.toBits.toNat_lt
    have bits : x.toModel.toBits.toBitVec.toNat = x.toBits.toNat := rfl
    rw [packed, pack_ofFields _ he hf, toNat_packComponents, toNat_exponent he, toNat_fraction hf, bits, ← sign,
      signOf]
    by_cases negative : 0x8000000000000000 ≤ x.toBits.toNat
    · rw [decide_eq_true negative, if_pos rfl, signBit]
      unfold leadingBit
      omega
    · rw [decide_eq_false negative, if_neg Bool.false_ne_true, signBit]
      unfold leadingBit
      omega

end BoxOffice.Number
