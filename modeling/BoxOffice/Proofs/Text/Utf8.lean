import BoxOffice.Text.Utf8

/-!
# The bytes of a text read back

* `step_encodeChar` -- the bytes of a character are one step of reading, whatever follows them;
* `scan_encode` -- so the bytes of a text are its characters, none of them ill-formed;
* `decode?_encode`, `decodeLossy_encode` -- both ways of reading give the text.
-/

namespace BoxOffice.Utf8

/-! ## 1. One character -/

theorem toNat_ofNat_of_lt {n : Nat} (h : n < 256) : (UInt8.ofNat n).toNat = n :=
  UInt8.toNat_ofNat_of_lt' h

/-- A byte inside a character is one, and carries its six bits. -/
theorem isTail_ofNat {k : Nat} (h : k < 0x40) :
    isTail (.ofNat (0x80 + k)) = true ∧ tailBits (.ofNat (0x80 + k)) = k := by
  rw [isTail, tailBits, toNat_ofNat_of_lt (by omega)]
  refine ⟨?_, by omega⟩
  simp only [Bool.and_eq_true, decide_eq_true_eq]
  omega

/-- No character is a surrogate. -/
theorem toNat_lt_or (c : Char) : c.toNat < 0xD800 ∨ (0xDFFF < c.toNat ∧ c.toNat < 0x110000) :=
  c.valid

theorem step_two {c : Char} {k l : Nat} (hk : 2 ≤ k) (hk' : k < 0x20) (hl : l < 0x40)
    (hc : k * 0x40 + l = c.toNat) (rest : List UInt8) :
    step (.ofNat (0xC0 + k)) (.ofNat (0x80 + l) :: rest) = (some c, rest) := by
  have first : (UInt8.ofNat (0xC0 + k)).toNat = 0xC0 + k := toNat_ofNat_of_lt (by omega)
  obtain ⟨tail, bits⟩ := isTail_ofNat hl
  have lead : (0xC0 + k) % 0x20 = k := by omega
  unfold step
  simp only [first]
  rw [if_neg (by omega), if_neg (by omega), if_pos (by omega), if_pos tail, bits, lead, hc,
    Char.ofNat_toNat]

theorem isSecondOfThree_ofNat {j k : Nat} (hj : j < 0x10) (hk : k < 0x40)
    (long : j = 0 → 0x20 ≤ k) (plain : j = 0xD → k < 0x20) :
    isSecondOfThree (.ofNat (0xE0 + j)) (.ofNat (0x80 + k)) = true := by
  have first : (UInt8.ofNat (0xE0 + j)).toNat = 0xE0 + j := toNat_ofNat_of_lt (by omega)
  have second : (UInt8.ofNat (0x80 + k)).toNat = 0x80 + k := toNat_ofNat_of_lt (by omega)
  simp only [isSecondOfThree, (isTail_ofNat hk).1, first, second, Bool.true_and, Bool.and_eq_true,
    Bool.not_eq_true', Bool.and_eq_false_iff, beq_eq_false_iff_ne, decide_eq_false_iff_not]
  omega

theorem step_three {c : Char} {j k l : Nat} (hj : j < 0x10) (hk : k < 0x40) (hl : l < 0x40)
    (long : j = 0 → 0x20 ≤ k) (plain : j = 0xD → k < 0x20)
    (hc : j * 0x1000 + k * 0x40 + l = c.toNat) (rest : List UInt8) :
    step (.ofNat (0xE0 + j)) (.ofNat (0x80 + k) :: .ofNat (0x80 + l) :: rest) = (some c, rest) := by
  have first : (UInt8.ofNat (0xE0 + j)).toNat = 0xE0 + j := toNat_ofNat_of_lt (by omega)
  have second := isSecondOfThree_ofNat hj hk long plain
  obtain ⟨tail, bits⟩ := isTail_ofNat hl
  have lead : (0xE0 + j) % 0x10 = j := by omega
  unfold step
  simp only [first]
  rw [if_neg (by omega), if_neg (by omega), if_neg (by omega), if_pos (by omega)]
  simp only [second, tail, (isTail_ofNat hk).2, bits, lead, hc, Char.ofNat_toNat, if_true]

theorem isSecondOfFour_ofNat {i j : Nat} (hi : i < 0x5) (hj : j < 0x40)
    (long : i = 0 → 0x10 ≤ j) (plain : i = 4 → j < 0x10) :
    isSecondOfFour (.ofNat (0xF0 + i)) (.ofNat (0x80 + j)) = true := by
  have first : (UInt8.ofNat (0xF0 + i)).toNat = 0xF0 + i := toNat_ofNat_of_lt (by omega)
  have second : (UInt8.ofNat (0x80 + j)).toNat = 0x80 + j := toNat_ofNat_of_lt (by omega)
  simp only [isSecondOfFour, (isTail_ofNat hj).1, first, second, Bool.true_and, Bool.and_eq_true,
    Bool.not_eq_true', Bool.and_eq_false_iff, beq_eq_false_iff_ne, decide_eq_false_iff_not]
  omega

theorem step_four {c : Char} {i j k l : Nat} (hi : i < 0x5) (hj : j < 0x40) (hk : k < 0x40)
    (hl : l < 0x40) (long : i = 0 → 0x10 ≤ j) (plain : i = 4 → j < 0x10)
    (hc : i * 0x40000 + j * 0x1000 + k * 0x40 + l = c.toNat) (rest : List UInt8) :
    step (.ofNat (0xF0 + i)) (.ofNat (0x80 + j) :: .ofNat (0x80 + k) :: .ofNat (0x80 + l) :: rest) =
      (some c, rest) := by
  have first : (UInt8.ofNat (0xF0 + i)).toNat = 0xF0 + i := toNat_ofNat_of_lt (by omega)
  have second := isSecondOfFour_ofNat hi hj long plain
  have third := isTail_ofNat hk
  obtain ⟨tail, bits⟩ := isTail_ofNat hl
  have lead : (0xF0 + i) % 0x8 = i := by omega
  unfold step
  simp only [first]
  rw [if_neg (by omega), if_neg (by omega), if_neg (by omega), if_neg (by omega), if_pos (by omega)]
  simp only [second, third.1, tail, (isTail_ofNat hj).2, third.2, bits, lead, hc, Char.ofNat_toNat,
    if_true]

/-- **The bytes of a character are one step of reading.** -/
theorem step_encodeChar (c : Char) : ∃ b bs, encodeChar c = b :: bs ∧
    ∀ rest, step b (bs ++ rest) = (some c, rest) := by
  have valid := toNat_lt_or c
  unfold encodeChar
  dsimp only
  split
  · next h =>
    refine ⟨_, _, rfl, fun rest => ?_⟩
    have first : (UInt8.ofNat c.toNat).toNat = c.toNat := toNat_ofNat_of_lt (by omega)
    unfold step
    simp only [first, if_pos h, Char.ofNat_toNat, List.nil_append]
  · split
    · exact ⟨_, _, rfl, step_two (by omega) (by omega) (by omega) (by omega)⟩
    · split
      · refine ⟨_, _, rfl, ?_⟩
        exact step_three (by omega) (by omega) (by omega) (by omega) (by omega) (by omega)
      · refine ⟨_, _, rfl, ?_⟩
        exact step_four (by omega) (by omega) (by omega) (by omega) (by omega) (by omega) (by omega)

/-! ## 2. Texts -/

/-- The bytes of a character, with any bytes after them, are that character first. -/
theorem scan_encodeChar (c : Char) (rest : List UInt8) :
    scan (encodeChar c ++ rest) = some c :: scan rest := by
  obtain ⟨b, bs, hc, one⟩ := step_encodeChar c
  rw [hc, List.cons_append, scan, one]

/-- **The bytes of a text are its characters.** -/
theorem scan_encode : ∀ cs : List Char, scan (encode cs) = cs.map some
  | [] => by rw [encode_nil, scan, List.map_nil]
  | c :: cs => by rw [encode_cons, scan_encodeChar, scan_encode cs, List.map_cons]

/-- The strict reading gives the text. -/
@[simp] theorem decode?_encode (cs : List Char) : decode? (encode cs) = some cs := by
  rw [decode?, scan_encode]
  induction cs with
  | nil => rfl
  | cons c cs ih =>
    rw [List.map_cons, List.mapM_cons, ih]
    rfl

/-- The lenient reading gives the text. -/
@[simp] theorem decodeLossy_encode (cs : List Char) : decodeLossy (encode cs) = cs := by
  rw [decodeLossy, scan_encode, List.map_map]
  exact List.map_id cs

end BoxOffice.Utf8
