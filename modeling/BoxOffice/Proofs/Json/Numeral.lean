import Mathlib.Algebra.Group.Nat.Defs
import BoxOffice.Json.Token
import BoxOffice.Proofs.Number.Digits

/-!
# Written numbers read back

* `Ends cs` -- what can follow a written value: nothing, a comma, or a closing bracket or brace;
* `Token.scanNumber_whole`, `scanFraction_point`, `scanExponent_mark` -- what the parts of a number are
  cut into;
* `Numeral.ofInt`, `Numeral.ofDecimal` -- the numerals of written integers and written decimals;
* `Token.scan_intDigits`, `Token.scan_writeDecimal` -- that is what is read;
* `Numeral.amount_ofInt` -- an integer of 64 bits has its value back;
* `Numeral.exists_amount_ofDecimal` -- a decimal below `10 ^ 16` has a value.
-/

namespace BoxOffice.Json

open BoxOffice.Number

/-- What can follow a written value. -/
def Ends (cs : List Char) : Prop := ∀ c rest, cs = c :: rest → c = ',' ∨ c = ']' ∨ c = '}'

theorem ends_nil : Ends [] := by
  intro c rest h
  cases h

theorem ends_comma (cs : List Char) : Ends (',' :: cs) := by
  intro c rest h
  cases h
  exact Or.inl rfl

theorem ends_bracket (cs : List Char) : Ends (']' :: cs) := by
  intro c rest h
  cases h
  exact Or.inr (Or.inl rfl)

theorem ends_brace (cs : List Char) : Ends ('}' :: cs) := by
  intro c rest h
  cases h
  exact Or.inr (Or.inr rfl)

/-- The values of digits. -/
def digitValues (cs : List Char) : List Nat := cs.map fun c => c.toNat - '0'.toNat

@[simp] theorem digitValues_nil : digitValues [] = [] := rfl

@[simp] theorem digitValues_cons (c : Char) (cs : List Char) :
    digitValues (c :: cs) = (c.toNat - '0'.toNat) :: digitValues cs := rfl

theorem digitValues_ne_nil {cs : List Char} (h : cs ≠ []) : digitValues cs ≠ [] :=
  fun e => h (List.map_eq_nil_iff.mp e)

/-- All characters are digits. -/
def Digits (cs : List Char) : Prop := ∀ c ∈ cs, c.isDigit = true

/-- Digits that can stand before a point: at least one, and a zero only alone. -/
structure Whole (cs : List Char) : Prop where
  digits : Digits cs
  ne_nil : cs ≠ []
  leading : ∀ rest, cs = '0' :: rest → rest = []

namespace Token

/-! ## 1. Cutting out digits -/

/-- The text does not go on with a digit. -/
def NoDigit (cs : List Char) : Prop := ∀ c rest, cs = c :: rest → c.isDigit = false

theorem noDigit_of_ends {cs : List Char} (h : Ends cs) : NoDigit cs := by
  intro c rest hc
  rcases h c rest hc with rfl | rfl | rfl <;> rfl

theorem leadingDigits_append {ds rest : List Char} (digits : Digits ds) (next : NoDigit rest) :
    leadingDigits (ds ++ rest) = digitValues ds ∧ (ds ++ rest).dropWhile isDigit = rest := by
  have none : rest.takeWhile isDigit = [] ∧ rest.dropWhile isDigit = rest := by
    cases rest with
    | nil => exact ⟨rfl, rfl⟩
    | cons c cs =>
      have hc : isDigit c = false := next c cs rfl
      simp [hc]
  have all : ∀ c ∈ ds, isDigit c = true := digits
  refine ⟨?_, ?_⟩
  · rw [leadingDigits, List.takeWhile_append_of_pos all, none.1, List.append_nil]
    rfl
  · rw [List.dropWhile_append_of_pos all, none.2]

/-! ## 2. Cutting out numbers -/

variable {negative : Bool} {w f : List Nat} {rest : List Char}

theorem scanExponent_ends (h : Ends rest) :
    scanExponent negative w f rest = (.number ⟨negative, w, f, none⟩, rest) := by
  unfold scanExponent
  split
  · next e cs =>
    have other := h e cs rfl
    refine if_neg ?_
    rintro (rfl | rfl) <;> exact absurd other (by decide)
  · rfl

/-- An exponent is cut out with its sign. -/
theorem scanExponent_mark {sign ds : List Char} {down : Bool}
    (hsign : sign = (if down then ['-'] else ['+'])) (digits : Digits ds) (some_digit : ds ≠ [])
    (h : Ends rest) :
    scanExponent negative w f ('e' :: sign ++ ds ++ rest) =
      (.number ⟨negative, w, f, some (down, digitValues ds)⟩, rest) := by
  have signed : exponentSign (sign ++ (ds ++ rest)) = (down, ds ++ rest) := by
    cases down <;> rw [hsign] <;> rfl
  obtain ⟨lead, after⟩ := leadingDigits_append digits (noDigit_of_ends h)
  rw [List.append_assoc, List.cons_append, scanExponent, if_pos (Or.inl rfl), signed]
  simp only [lead, after]
  split
  · next e => exact absurd e (digitValues_ne_nil some_digit)
  · rfl

theorem scanFraction_ends (h : Ends rest) :
    scanFraction negative w rest = (.number ⟨negative, w, [], none⟩, rest) := by
  unfold scanFraction
  split
  · next cs => exact absurd (h '.' cs rfl) (by decide)
  · exact scanExponent_ends h

/-- A fraction is cut out up to its last digit. -/
theorem scanFraction_point {ds : List Char} (digits : Digits ds) (some_digit : ds ≠ [])
    (next : NoDigit rest) :
    scanFraction negative w ('.' :: ds ++ rest) =
      scanExponent negative w (digitValues ds) rest := by
  obtain ⟨lead, after⟩ := leadingDigits_append digits next
  rw [List.cons_append, scanFraction]
  simp only [lead, after]
  split
  · next e => exact absurd e (digitValues_ne_nil some_digit)
  · rfl

/-- So are the digits before the point. -/
theorem scanNumber_whole {ds : List Char} (whole : Whole ds) (next : NoDigit rest) :
    scanNumber negative (ds ++ rest) = scanFraction negative (digitValues ds) rest := by
  obtain ⟨lead, after⟩ := leadingDigits_append whole.digits next
  unfold scanNumber
  rw [lead, after]
  split
  · next e => exact absurd e (digitValues_ne_nil whole.ne_nil)
  · next x xs e =>
    cases ds with
    | nil => cases e
    | cons c cs =>
      rw [digitValues_cons, List.cons.injEq] at e
      have range := toNat_of_isDigit (whole.digits c List.mem_cons_self)
      have zero : c = '0' := by
        refine Char.toNat_inj.mp ?_
        omega
      have alone := whole.leading cs (by rw [zero])
      rw [alone] at e
      cases e.2
  · rfl

/-- A digit begins a number, and is no white space. -/
theorem first_digit {c : Char} (h : c.isDigit = true) (cs : List Char) :
    first c cs = scanNumber false (c :: cs) ∧ isSpace c = false := by
  refine ⟨?_, ?_⟩
  · unfold first
    split
    case h_12 => exact if_pos h
    all_goals exact absurd h (by decide)
  · simp only [isSpace, Bool.or_eq_false_iff, beq_eq_false_iff_ne]
    refine ⟨⟨⟨?_, ?_⟩, ?_⟩, ?_⟩ <;> (rintro rfl; exact absurd h (by decide))

/-- **A number with its sign is one token.** -/
theorem scan_number {ds rest after : List Char} {n : Numeral} (whole : Whole ds)
    (h : scanNumber negative (ds ++ rest) = (.number n, after)) :
    scan ((if negative then ['-'] else []) ++ (ds ++ rest)) = .number n :: scan after := by
  cases negative with
  | true =>
    have first_eq : first '-' (ds ++ rest) = (.number n, after) := h
    rw [if_pos rfl, List.cons_append, List.nil_append, scan_token (by decide), first_eq]
  | false =>
    cases ds with
    | nil => exact absurd rfl whole.ne_nil
    | cons c cs =>
      obtain ⟨begins, space⟩ := first_digit (whole.digits c List.mem_cons_self) (cs ++ rest)
      rw [if_neg (by decide), List.nil_append, List.cons_append, scan_token space, begins]
      rw [List.cons_append] at h
      rw [h]

end Token

/-! ## 3. Integers -/

/-- The digits of a number can stand before a point. -/
theorem whole_natDigits (n : Nat) : Whole (natDigits n) where
  digits _ h := isDigit_of_mem_natDigits h
  ne_nil := natDigits_ne_nil n
  leading rest h := by
    by_cases zero : n = 0
    · rw [zero] at h
      cases h
      rfl
    · exact absurd rfl (head_natDigits (by omega) h)

/-- The numeral of a written integer. -/
def Numeral.ofInt : Int → Numeral
  | .ofNat n => ⟨false, digitValues (natDigits n), [], none⟩
  | .negSucc n => ⟨true, digitValues (natDigits (n + 1)), [], none⟩

/-- **A written integer is one token.** -/
theorem Token.scan_intDigits (k : Int) {rest : List Char} (h : Ends rest) :
    Token.scan (intDigits k ++ rest) = .number (.ofInt k) :: Token.scan rest := by
  have digits : ∀ (negative : Bool) (n : Nat),
      Token.scanNumber negative (natDigits n ++ rest) =
        (.number ⟨negative, digitValues (natDigits n), [], none⟩, rest) := by
    intro negative n
    rw [Token.scanNumber_whole (whole_natDigits n) (Token.noDigit_of_ends h), Token.scanFraction_ends h]
  cases k with
  | ofNat n => exact Token.scan_number (whole_natDigits n) (digits false n)
  | negSucc n => exact Token.scan_number (whole_natDigits (n + 1)) (digits true (n + 1))

namespace Numeral

/-- Digits are taken up as the number that they write. -/
theorem absorb_of_le {limit : Nat} : ∀ {cs : List Char} {n : Nat},
    Nat.ofDigitChars 10 cs n ≤ limit →
    absorb limit n (digitValues cs) = (Nat.ofDigitChars 10 cs n, [])
  | [], _, _ => rfl
  | c :: cs, n, within => by
    have least := le_ofDigitChars cs (10 * n + (c.toNat - '0'.toNat))
    rw [Nat.ofDigitChars_cons] at within ⊢
    rw [digitValues_cons, absorb, if_pos (Nat.le_trans least within)]
    exact absorb_of_le within

/-- **An integer of 64 bits, signed or not, has its value back.** -/
theorem amount_ofInt {k : Int} (low : -(negativeLimit : Int) ≤ k) (high : k ≤ significandLimit) :
    (ofInt k).amount = .ok (.integer k) := by
  have read : ∀ n : Nat, n ≤ significandLimit →
      absorb significandLimit 0 (digitValues (natDigits n)) = (n, []) := by
    intro n hn
    rw [absorb_of_le (by rwa [ofDigitChars_natDigits]), ofDigitChars_natDigits]
  cases k with
  | ofNat n =>
    have value : (ofInt (.ofNat n)).toInteger? = some (n : Int) := by
      rw [toInteger?, ofInt, read n (Int.ofNat_le.mp high)]
      rfl
    rw [amount, value]
    rfl
  | negSucc n =>
    have small : n + 1 ≤ negativeLimit := by omega
    have value : (ofInt (.negSucc n)).toInteger? = some (-((n + 1 : Nat) : Int)) := by
      rw [toInteger?, ofInt, read (n + 1) (Nat.le_trans small (by decide))]
      simp only [if_true]
      rw [if_neg]
      rintro (h | h)
      · cases h
      · omega
    rw [amount, value]
    rfl

end Numeral

/-! ## 4. Decimals -/

/-- The digits before and after the point of a positional form. -/
def positionalParts (ds : List Char) (point : Int) : List Char × List Char :=
  if point ≤ 0 then (['0'], List.replicate (-point).toNat '0' ++ ds)
  else if (ds.length : Int) ≤ point then
    (ds ++ List.replicate (point.toNat - ds.length) '0', ['0'])
  else (ds.take point.toNat, ds.drop point.toNat)

theorem placePoint_eq (ds : List Char) (point : Int) :
    floatStyle.placePoint ds point =
      (positionalParts ds point).1 ++ '.' :: (positionalParts ds point).2 := by
  unfold FloatStyle.placePoint positionalParts
  split
  · rfl
  · split
    · rfl
    · rfl

theorem digits_replicate (n : Nat) : Digits (List.replicate n '0') := by
  intro c h
  rw [(List.mem_replicate.mp h).2]
  rfl

theorem digits_append {cs ds : List Char} (hc : Digits cs) (hd : Digits ds) : Digits (cs ++ ds) :=
  fun c h => (List.mem_append.mp h).elim (hc c) (hd c)

/-- Digits whose first one is no zero can stand before a point. -/
theorem whole_of_head {ds : List Char} (digits : Digits ds) (ne_nil : ds ≠ [])
    (head : ∀ c cs, ds = c :: cs → c ≠ '0') : Whole ds :=
  ⟨digits, ne_nil, fun _ h => absurd rfl (head _ _ h)⟩

/-- Both parts of a positional form are well-formed. -/
theorem positionalParts_ok {n : Nat} (hn : 0 < n) (point : Int) :
    Whole (positionalParts (natDigits n) point).1 ∧
    Digits (positionalParts (natDigits n) point).2 ∧
    (positionalParts (natDigits n) point).2 ≠ [] := by
  have whole := whole_natDigits n
  have head : ∀ c cs, natDigits n = c :: cs → c ≠ '0' := fun c cs => head_natDigits hn
  unfold positionalParts
  split
  · refine ⟨⟨digits_replicate 1, List.cons_ne_nil _ _, fun _ h => by cases h; rfl⟩, ?_, ?_⟩
    · exact digits_append (digits_replicate _) whole.digits
    · exact fun e => whole.ne_nil (List.append_eq_nil_iff.mp e).2
  · next positive =>
    split
    · refine ⟨whole_of_head (digits_append whole.digits (digits_replicate _)) ?_ ?_,
        digits_replicate 1, List.cons_ne_nil _ _⟩
      · exact fun e => whole.ne_nil (List.append_eq_nil_iff.mp e).1
      · intro c cs h
        obtain ⟨d, ds, hd, _⟩ := exists_cons_natDigits n
        rw [hd, List.cons_append] at h
        cases h
        exact head c ds hd
    · next inside =>
      refine ⟨whole_of_head (fun c h => whole.digits c (List.mem_of_mem_take h)) ?_ ?_,
        fun c h => whole.digits c (List.mem_of_mem_drop h), ?_⟩
      · rw [ne_eq, List.take_eq_nil_iff, not_or]
        exact ⟨by omega, whole.ne_nil⟩
      · intro c cs h
        obtain ⟨d, ds, hd, _⟩ := exists_cons_natDigits n
        rw [hd] at h
        obtain ⟨k, hk⟩ : ∃ k, point.toNat = k + 1 := ⟨point.toNat - 1, by omega⟩
        rw [hk, List.take_succ_cons] at h
        cases h
        exact head c ds hd
      · rw [ne_eq, List.drop_eq_nil_iff]
        omega

/-- The exponent of a decimal when one digit stands before its point. -/
def exponentOf (d : Decimal) : Int := d.power + (natDigits d.digits).length - 1

/-- The numeral of a written decimal. -/
def Numeral.ofDecimal (negative : Bool) (d : Decimal) : Numeral :=
  if d.digits = 0 then ⟨negative, [0], [0], none⟩
  else if floatStyle.isPositional (exponentOf d) then
    let parts := positionalParts (natDigits d.digits) (exponentOf d + 1)
    ⟨negative, digitValues parts.1, digitValues parts.2, none⟩
  else
    ⟨negative, digitValues ((natDigits d.digits).take 1), digitValues ((natDigits d.digits).drop 1),
     some (decide (exponentOf d < 0), digitValues (natDigits (exponentOf d).natAbs))⟩

/-- The written form of a decimal, by cases. -/
theorem writeDecimal_eq (d : Decimal) : floatStyle.writeDecimal d =
    if d.digits = 0 then ['0', '.', '0']
    else if floatStyle.isPositional (exponentOf d) then
      floatStyle.placePoint (natDigits d.digits) (exponentOf d + 1)
    else floatStyle.withExponent (natDigits d.digits) (exponentOf d) := rfl

/-- Two parts with a point between them are one token. -/
theorem Token.scan_point (negative : Bool) {w f rest : List Char} (whole : Whole w)
    (digits : Digits f) (some_digit : f ≠ []) (h : Ends rest) :
    Token.scan ((if negative then ['-'] else []) ++ (w ++ '.' :: f ++ rest)) =
      .number ⟨negative, digitValues w, digitValues f, none⟩ :: Token.scan rest := by
  rw [List.append_assoc]
  refine Token.scan_number whole ?_
  rw [Token.scanNumber_whole whole (fun _ _ e => by cases e; rfl),
    Token.scanFraction_point digits some_digit (Token.noDigit_of_ends h), Token.scanExponent_ends h]

/-- A digit, perhaps a fraction, and an exponent are one token. -/
theorem Token.scan_exponent (negative : Bool) (n : Nat) (e : Int) {rest : List Char}
    (h : Ends rest) :
    Token.scan ((if negative then ['-'] else []) ++
        (floatStyle.withExponent (natDigits n) e ++ rest)) =
      .number ⟨negative, digitValues ((natDigits n).take 1), digitValues ((natDigits n).drop 1),
        some (decide (e < 0), digitValues (natDigits e.natAbs))⟩ :: Token.scan rest := by
  have exponent := whole_natDigits e.natAbs
  have sign : (if e < 0 then ['-'] else ['+']) = if decide (e < 0) = true then ['-'] else ['+'] := by
    simp
  have whole := whole_natDigits n
  obtain ⟨c, cs, hc, digit⟩ := exists_cons_natDigits n
  have first : Whole [c] :=
    ⟨fun d hd => by rwa [List.mem_singleton.mp hd], List.cons_ne_nil _ _, fun _ e => by cases e; rfl⟩
  rw [hc]
  cases cs with
  | nil =>
    have text : floatStyle.withExponent [c] e ++ rest =
        [c] ++ ('e' :: (if e < 0 then ['-'] else ['+']) ++ natDigits e.natAbs ++ rest) := rfl
    rw [text]
    refine Token.scan_number first ?_
    rw [Token.scanNumber_whole first (fun _ _ e => by cases e; rfl)]
    exact Token.scanExponent_mark sign exponent.digits exponent.ne_nil h
  | cons d ds =>
    have text : floatStyle.withExponent (c :: d :: ds) e ++ rest =
        [c] ++ ('.' :: (d :: ds) ++
          ('e' :: (if e < 0 then ['-'] else ['+']) ++ natDigits e.natAbs ++ rest)) := by
      simp [FloatStyle.withExponent, floatStyle, natDigits]
    have fraction : Digits (d :: ds) := fun x hx =>
      whole.digits x (by rw [hc]; exact List.mem_cons_of_mem c hx)
    rw [text]
    refine Token.scan_number first ?_
    rw [Token.scanNumber_whole first (fun _ _ e => by cases e; rfl),
      Token.scanFraction_point fraction (List.cons_ne_nil _ _) (fun _ _ e => by cases e; rfl)]
    exact Token.scanExponent_mark sign exponent.digits exponent.ne_nil h

/-- **A written decimal is one token.** -/
theorem Token.scan_writeDecimal (negative : Bool) (d : Decimal) {rest : List Char} (h : Ends rest) :
    Token.scan ((if negative then ['-'] else []) ++ (floatStyle.writeDecimal d ++ rest)) =
      .number (.ofDecimal negative d) :: Token.scan rest := by
  rw [writeDecimal_eq, Numeral.ofDecimal]
  by_cases zero : d.digits = 0
  · rw [if_pos zero, if_pos zero]
    exact Token.scan_point negative
      ⟨digits_replicate 1, List.cons_ne_nil _ _, fun _ e => by cases e; rfl⟩
      (digits_replicate 1) (List.cons_ne_nil _ _) h
  · rw [if_neg zero, if_neg zero]
    by_cases positional : floatStyle.isPositional (exponentOf d) = true
    · obtain ⟨whole, digits, some_digit⟩ :=
        positionalParts_ok (Nat.pos_of_ne_zero zero) (exponentOf d + 1)
      rw [if_pos positional, if_pos positional, placePoint_eq]
      exact Token.scan_point negative whole digits some_digit h
    · rw [if_neg positional, if_neg positional]
      exact Token.scan_exponent negative d.digits (exponentOf d) h

/-! ## 5. The values of decimals -/

namespace Numeral

/-- Some number of digits writes a number below that power of ten. -/
theorem ofDigitChars_lt : ∀ {cs : List Char}, Digits cs → ∀ n : Nat,
    Nat.ofDigitChars 10 cs n < 10 ^ cs.length * (n + 1)
  | [], _, n => by simp
  | c :: cs, digits, n => by
    have range := toNat_of_isDigit (digits c List.mem_cons_self)
    have others : Digits cs := fun d hd => digits d (List.mem_cons_of_mem c hd)
    have rest := ofDigitChars_lt others (10 * n + (c.toNat - '0'.toNat))
    have value : c.toNat - '0'.toNat ≤ 9 := by
      have : '9'.toNat - '0'.toNat = 9 := rfl
      omega
    rw [Nat.ofDigitChars_cons]
    calc Nat.ofDigitChars 10 cs (10 * n + (c.toNat - '0'.toNat))
        < 10 ^ cs.length * (10 * n + (c.toNat - '0'.toNat) + 1) := rest
      _ ≤ 10 ^ cs.length * (10 * (n + 1)) := Nat.mul_le_mul_left _ (by omega)
      _ = 10 ^ (c :: cs).length * (n + 1) := by
        rw [List.length_cons, Nat.pow_succ, Nat.mul_assoc]

/-- Up to sixteen digits are all taken up. -/
theorem absorb_of_length_le {cs : List Char} (digits : Digits cs) (h : cs.length ≤ 16) :
    ∃ s, absorb significandLimit 0 (digitValues cs) = (s, []) ∧ s < 10 ^ 16 := by
  have below := ofDigitChars_lt digits 0
  have power : 10 ^ cs.length ≤ 10 ^ 16 := Nat.pow_le_pow_right (by decide) h
  have limit : 10 ^ 16 ≤ significandLimit := by decide
  exact ⟨_, absorb_of_le (by omega), by omega⟩

theorem absorb_length_le (limit : Nat) : ∀ (ds : List Nat) (n : Nat),
    (absorb limit n ds).2.length ≤ ds.length
  | [], _ => Nat.le_refl _
  | d :: ds, n => by
    unfold absorb
    split
    · exact Nat.le_succ_of_le (absorb_length_le limit ds _)
    · exact Nat.le_refl _

/-- What is taken up without a rest is the number that the digits write. -/
theorem eq_of_absorb {limit m : Nat} : ∀ {cs : List Char} {n : Nat},
    absorb limit n (digitValues cs) = (m, []) → m = Nat.ofDigitChars 10 cs n
  | [], _, h => by
    cases h
    rfl
  | c :: cs, n, h => by
    rw [digitValues_cons, absorb] at h
    split at h
    · rw [Nat.ofDigitChars_cons]
      exact eq_of_absorb h
    · cases h

/-- Below one, no scaling leads out of the doubles. -/
theorem exists_ofParts (negative : Bool) (s : Nat) {e : Int} (h : e < 0) :
    ∃ x, ofParts negative s e = .ok x := by
  cases e with
  | ofNat n => exact absurd h (Int.not_lt.mpr (Int.natCast_nonneg n))
  | negSucc n => exact ⟨_, rfl⟩

/-- A numeral with few whole digits and a fraction has a value. -/
theorem exists_toFloat_of_fraction {negative : Bool} {w f : List Char} (hw : Digits w)
    (length : w.length ≤ 16) (hf : Digits f) (ne_nil : f ≠ []) :
    ∃ x, toFloat ⟨negative, digitValues w, digitValues f, none⟩ = .ok x := by
  obtain ⟨s, whole, small⟩ := absorb_of_length_le hw length
  cases f with
  | nil => exact absurd rfl ne_nil
  | cons c cs =>
    have range := toNat_of_isDigit (hf c List.mem_cons_self)
    have digit : c.toNat - '0'.toNat ≤ 9 := by
      have : '9'.toNat - '0'.toNat = 9 := rfl
      omega
    have fits : 10 * s + (c.toNat - '0'.toNat) ≤ significandLimit := by
      have : 10 * 10 ^ 16 + 9 ≤ significandLimit := by decide
      omega
    have rest := absorb_length_le significandLimit (digitValues cs) (10 * s + (c.toNat - '0'.toNat))
    simp only [toFloat, whole, withExponent, digitValues_cons]
    rw [absorb, if_pos fits]
    refine exists_ofParts _ _ ?_
    simp only [List.length_cons, List.length_nil]
    omega

/-- So has one with few whole digits and an exponent below zero. -/
theorem exists_toFloat_of_exponent {negative : Bool} {w f ds : List Char} (hw : Digits w)
    (length : w.length ≤ 16) (hds : 0 < Nat.ofDigitChars 10 ds 0) :
    ∃ x, toFloat ⟨negative, digitValues w, digitValues f, some (true, digitValues ds)⟩ = .ok x := by
  obtain ⟨s, whole, small⟩ := absorb_of_length_le hw length
  simp only [toFloat, whole, withExponent]
  split
  · next k h =>
    have value := eq_of_absorb h
    refine exists_ofParts _ _ ?_
    simp only [List.length_nil, if_true]
    omega
  · exact ⟨_, if_neg fun h => Bool.noConfusion h.2⟩

/-- The digits before the point of a positional form are as many as it says, and one at least. -/
theorem length_positionalParts_le (ds : List Char) {point : Int} (h : point ≤ 16) :
    (positionalParts ds point).1.length ≤ 16 := by
  unfold positionalParts
  split
  · exact Nat.le_of_ble_eq_true rfl
  · split
    · simp only [List.length_append, List.length_replicate]
      omega
    · simp only [List.length_take]
      omega

/-- With a fraction or an exponent, a numeral is no integer. -/
theorem amount_of_plain {n : Numeral} (plain : n.fraction ≠ [] ∨ n.exponent ≠ none) :
    n.amount = n.toFloat.map .float := by
  have none : n.toInteger? = none := by
    unfold toInteger?
    split
    · next f e _ =>
      rcases plain with plain | plain
      · exact absurd f plain
      · exact absurd e plain
    · rfl
  rw [amount, none]

theorem amount_of_toFloat {n : Numeral} (h : ∃ x, n.toFloat = .ok x)
    (plain : n.fraction ≠ [] ∨ n.exponent ≠ none) : ∃ x, n.amount = .ok (.float x) := by
  obtain ⟨x, hx⟩ := h
  exact ⟨x, by rw [amount_of_plain plain, hx]; rfl⟩

/-- **A decimal below `10 ^ 16` has a value.** -/
theorem exists_amount_ofDecimal (negative : Bool) {d : Decimal}
    (h : d.digits = 0 ∨ exponentOf d < 16) :
    ∃ x, (ofDecimal negative d).amount = .ok (.float x) := by
  unfold ofDecimal
  by_cases zero : d.digits = 0
  · rw [if_pos zero]
    exact amount_of_toFloat ⟨_, rfl⟩ (Or.inl (List.cons_ne_nil _ _))
  · have small : exponentOf d < 16 := h.resolve_left zero
    rw [if_neg zero]
    by_cases positional : floatStyle.isPositional (exponentOf d) = true
    · obtain ⟨whole, digits, some_digit⟩ :=
        positionalParts_ok (Nat.pos_of_ne_zero zero) (exponentOf d + 1)
      rw [if_pos positional]
      refine amount_of_toFloat ?_ (Or.inl (digitValues_ne_nil some_digit))
      exact exists_toFloat_of_fraction whole.digits (length_positionalParts_le _ (by omega)) digits
        some_digit
    · have low : exponentOf d < -5 := by
        simp only [FloatStyle.isPositional, floatStyle, Bool.and_eq_true, decide_eq_true_eq]
          at positional
        omega
      have whole := whole_natDigits d.digits
      have down : decide (exponentOf d < 0) = true := decide_eq_true (by omega)
      rw [if_neg positional, down]
      refine amount_of_toFloat ?_ (Or.inr (Option.some_ne_none _))
      refine exists_toFloat_of_exponent (fun c hc => whole.digits c (List.mem_of_mem_take hc)) ?_ ?_
      · rw [List.length_take]
        omega
      · rw [ofDigitChars_natDigits]
        omega

end Numeral

end BoxOffice.Json
