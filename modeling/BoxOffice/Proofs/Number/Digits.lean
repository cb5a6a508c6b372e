import BoxOffice.Number.Bounded

/-!
# Decimal integers read back

* `isDigit_of_mem_natDigits`, `head_natDigits` -- a written number is digits, and only that of zero
  begins with a zero;
* `readDigits_of_le` -- digits are read as the number that they write, if it keeps within the limit;
* `read_intDigits` -- so an integer within bounds reads back;
* `Writes` -- the texts that write a natural number, `read_eq_ok_iff` -- where no integer is below zero, they are all
  that is read.
-/

namespace BoxOffice.Number

/-! ## 1. The digits of a number -/

theorem isDigit_of_mem_natDigits {n : Nat} {c : Char} (h : c ∈ natDigits n) : c.isDigit = true :=
  Nat.isDigit_of_mem_toDigits (by decide) (by decide) h

@[simp] theorem ofDigitChars_natDigits (n : Nat) : Nat.ofDigitChars 10 (natDigits n) 0 = n :=
  Nat.ofDigitChars_ten_toDigits

@[simp] theorem natDigits_ne_nil (n : Nat) : natDigits n ≠ [] := Nat.toDigits_ne_nil

theorem intDigits_ne_nil (k : Int) : intDigits k ≠ [] := by
  cases k with
  | ofNat n => exact natDigits_ne_nil n
  | negSucc n => exact List.cons_ne_nil _ _

/-- There is a first digit. -/
theorem exists_cons_natDigits (n : Nat) : ∃ c cs, natDigits n = c :: cs ∧ c.isDigit = true := by
  cases h : natDigits n with
  | nil => exact absurd h (natDigits_ne_nil n)
  | cons c cs => exact ⟨c, cs, rfl, isDigit_of_mem_natDigits (h ▸ List.mem_cons_self)⟩

/-- The first digit of a number above zero is no zero. -/
theorem head_natDigits {n : Nat} (hn : 0 < n) {c : Char} {cs : List Char}
    (h : natDigits n = c :: cs) : c ≠ '0' := by
  induction n using Nat.strongRecOn generalizing c cs with
  | ind n ih =>
    rw [natDigits, Nat.toDigits_eq_if (by decide)] at h
    split at h
    · cases h
      simp only [ne_eq, Nat.digitChar_eq_zero]
      omega
    · obtain ⟨d, ds, hd, _⟩ := exists_cons_natDigits (n / 10)
      have first := ih (n / 10) (by omega) (by omega) hd
      rw [natDigits] at hd
      rw [hd] at h
      cases h
      exact first

/-- The value of a digit. -/
theorem toNat_of_isDigit {c : Char} (h : c.isDigit = true) :
    '0'.toNat ≤ c.toNat ∧ c.toNat ≤ '9'.toNat := by
  rw [Char.isDigit, Bool.and_eq_true, decide_eq_true_eq, decide_eq_true_eq] at h
  exact ⟨h.1, h.2⟩

theorem digit?_of_isDigit {c : Char} (h : c.isDigit = true) :
    digit? c = some (c.toNat - '0'.toNat) :=
  if_pos (toNat_of_isDigit h)

/-! ## 2. Reading them -/

/-- Digits never make a number smaller. -/
theorem le_ofDigitChars (cs : List Char) : ∀ n : Nat, n ≤ Nat.ofDigitChars 10 cs n := by
  induction cs with
  | nil => exact fun n => Nat.le_refl n
  | cons c cs ih =>
    intro n
    rw [Nat.ofDigitChars_cons]
    have rest := ih (10 * n + (c.toNat - '0'.toNat))
    omega

/-- **Digits are read as the number that they write.** -/
theorem readDigits_of_le {limit : Nat} {excess : IntegerFault} : ∀ {cs : List Char} {n : Nat},
    (∀ c ∈ cs, c.isDigit = true) → Nat.ofDigitChars 10 cs n ≤ limit →
    readDigits limit excess n cs = .ok (Nat.ofDigitChars 10 cs n)
  | [], _, _, _ => rfl
  | c :: cs, n, digits, within => by
    have here := digit?_of_isDigit (digits c List.mem_cons_self)
    have least := le_ofDigitChars cs (10 * n + (c.toNat - '0'.toNat))
    rw [Nat.ofDigitChars_cons] at within ⊢
    rw [readDigits, here]
    simp only
    rw [if_pos (Nat.le_trans least within)]
    exact readDigits_of_le (fun d hd => digits d (List.mem_cons_of_mem c hd)) within

theorem readNatural_natDigits {limit : Nat} {excess : IntegerFault} {n : Nat} (h : n ≤ limit) :
    readNatural limit excess (natDigits n) = .ok n := by
  have read : readDigits limit excess 0 (natDigits n) = .ok n := by
    rw [readDigits_of_le (fun c => isDigit_of_mem_natDigits) (by rwa [ofDigitChars_natDigits]),
      ofDigitChars_natDigits]
  obtain ⟨c, cs, hc, _⟩ := exists_cons_natDigits n
  rw [hc] at read ⊢
  exact read

/-- A text that begins with a digit is read without a sign. -/
theorem read_of_isDigit {b : Bounds} {c : Char} {cs : List Char} (digit : c.isDigit = true) :
    b.read (c :: cs) = (readNatural b.up .tooLarge (c :: cs)).map Int.ofNat := by
  have plus : c ≠ '+' := fun e => absurd digit (by rw [e]; decide)
  have minus : c ≠ '-' := fun e => absurd digit (by rw [e]; decide)
  unfold Bounds.read
  split
  · next h => cases h
  · next h =>
    cases h
    exact absurd rfl plus
  · next h =>
    cases h
    exact absurd rfl minus
  · rfl

/-- **An integer within bounds reads back.** -/
theorem read_intDigits {b : Bounds} {k : Int} (low : -(b.down : Int) ≤ k) (high : k ≤ b.up) :
    b.read (intDigits k) = .ok k := by
  cases k with
  | ofNat n =>
    have read : readNatural b.up .tooLarge (natDigits n) = .ok n :=
      readNatural_natDigits (Int.ofNat_le.mp high)
    obtain ⟨c, cs, hc, digit⟩ := exists_cons_natDigits n
    rw [hc] at read
    rw [intDigits, hc, read_of_isDigit digit, read]
    rfl
  | negSucc n =>
    have read : readNatural b.down .tooSmall (natDigits (n + 1)) = .ok (n + 1) :=
      readNatural_natDigits (by omega)
    rw [intDigits, Bounds.read, if_neg (by omega), read]
    rfl

/-! ## 3. Nothing else is read -/

/-- **The text writes the natural number**: it is one or more digits with this value, any number of zeros first, and
    one plus sign stands before them or none. -/
def Writes (cs : List Char) (n : Nat) : Prop :=
  ∃ digits, (cs = digits ∨ cs = '+' :: digits) ∧ digits ≠ [] ∧ (∀ c ∈ digits, c.isDigit = true) ∧
    Nat.ofDigitChars 10 digits 0 = n

theorem Writes.ne_nil {cs : List Char} {n : Nat} (h : Writes cs n) : cs ≠ [] := by
  obtain ⟨digits, rfl | rfl, ne_nil, _⟩ := h
  · exact ne_nil
  · exact List.cons_ne_nil '+' digits

theorem isDigit_of_mem_zeros {n zeros : Nat} {c : Char} (h : c ∈ List.replicate zeros '0' ++ natDigits n) :
    c.isDigit = true := by
  rcases List.mem_append.mp h with h | h
  · rw [List.eq_of_mem_replicate h]
    rfl
  · exact isDigit_of_mem_natDigits h

/-- A printed number writes itself, with zeros before it or none. -/
theorem writes_natDigits (n zeros : Nat) : Writes (List.replicate zeros '0' ++ natDigits n) n := by
  refine ⟨_, Or.inl rfl, List.append_ne_nil_of_right_ne_nil _ (natDigits_ne_nil n),
    fun _ => isDigit_of_mem_zeros, ?_⟩
  rw [Nat.ofDigitChars_append, Nat.ofDigitChars_replicate_zero, Nat.mul_zero, ofDigitChars_natDigits]

theorem isDigit_of_digit? {c : Char} {d : Nat} (h : digit? c = some d) :
    c.isDigit = true ∧ d = c.toNat - '0'.toNat := by
  unfold digit? at h
  split at h
  · next within =>
    cases h
    rw [Char.isDigit, Bool.and_eq_true, decide_eq_true_eq, decide_eq_true_eq]
    exact ⟨within, rfl⟩
  · cases h

/-- What is read is digits, and the number that they write. -/
theorem of_readDigits {limit : Nat} {excess : IntegerFault} {m : Nat} : ∀ {cs : List Char} {n : Nat},
    n ≤ limit → readDigits limit excess n cs = .ok m →
    (∀ c ∈ cs, c.isDigit = true) ∧ Nat.ofDigitChars 10 cs n = m ∧ m ≤ limit
  | [], n, low, read => by
    cases read
    exact ⟨fun _ h => absurd h List.not_mem_nil, rfl, low⟩
  | c :: cs, n, _, read => by
    unfold readDigits at read
    split at read
    · cases read
    · next d here =>
      obtain ⟨digit, rfl⟩ := isDigit_of_digit? here
      split at read
      · next within =>
        -- the limit is tested at each digit: that the number so far keeps within it carries the induction
        obtain ⟨digits, value, le⟩ := of_readDigits within read
        refine ⟨fun e mem => ?_, value, le⟩
        rcases List.mem_cons.mp mem with rfl | mem
        · exact digit
        · exact digits e mem
      · cases read

/-- **One or more digits are read as their value, if it keeps within the limit, and nothing else is read.** -/
theorem readNatural_eq_ok_iff {limit : Nat} {excess : IntegerFault} {cs : List Char} {n : Nat} :
    readNatural limit excess cs = .ok n ↔
      cs ≠ [] ∧ (∀ c ∈ cs, c.isDigit = true) ∧ Nat.ofDigitChars 10 cs 0 = n ∧ n ≤ limit := by
  cases cs with
  | nil => exact ⟨nofun, fun ⟨ne_nil, _⟩ => absurd rfl ne_nil⟩
  | cons c cs =>
    constructor
    · exact fun read => ⟨List.cons_ne_nil c cs, of_readDigits (Nat.zero_le limit) read⟩
    · rintro ⟨_, digits, rfl, le⟩
      exact readDigits_of_le digits le

theorem map_readNatural_eq_ok_iff {limit : Nat} {excess : IntegerFault} {cs : List Char} {k : Int} :
    (readNatural limit excess cs).map Int.ofNat = .ok k ↔ ∃ n : Nat, k = n ∧ n ≤ limit ∧
      cs ≠ [] ∧ (∀ c ∈ cs, c.isDigit = true) ∧ Nat.ofDigitChars 10 cs 0 = n := by
  constructor
  · intro read
    cases digits : readNatural limit excess cs with
    | error fault =>
      rw [digits] at read
      cases read
    | ok n =>
      rw [digits] at read
      cases read
      obtain ⟨ne_nil, all, value, le⟩ := readNatural_eq_ok_iff.mp digits
      exact ⟨n, rfl, le, ne_nil, all, value⟩
  · rintro ⟨n, rfl, le, ne_nil, all, value⟩
    rw [readNatural_eq_ok_iff.mpr ⟨ne_nil, all, value, le⟩]
    rfl

/-- **Where no integer is below zero, a text is read as the number that it writes, if that is within the bounds, and
    no other text is read.** -/
theorem read_eq_ok_iff {b : Bounds} (unsigned : b.down = 0) {cs : List Char} {k : Int} :
    b.read cs = .ok k ↔ ∃ n : Nat, k = n ∧ n ≤ b.up ∧ Writes cs n := by
  constructor
  · intro read
    unfold Bounds.read at read
    split at read
    · cases read
    · next digits =>
      obtain ⟨n, rfl, le, written⟩ := map_readNatural_eq_ok_iff.mp read
      exact ⟨n, rfl, le, digits, Or.inr rfl, written⟩
    · rw [if_pos unsigned] at read
      cases read
    · obtain ⟨n, rfl, le, written⟩ := map_readNatural_eq_ok_iff.mp read
      exact ⟨n, rfl, le, cs, Or.inl rfl, written⟩
  · rintro ⟨n, rfl, le, digits, rfl | rfl, written⟩
    · cases cs with
      | nil => exact absurd rfl written.1
      | cons c cs =>
        rw [read_of_isDigit (written.2.1 c List.mem_cons_self)]
        exact map_readNatural_eq_ok_iff.mpr ⟨n, rfl, le, written⟩
    · exact map_readNatural_eq_ok_iff.mpr ⟨n, rfl, le, written⟩

end BoxOffice.Number
