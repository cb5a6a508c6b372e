import BoxOffice.Json.Value

/-!
# Written texts read back

* `Quoted.ofText s` -- the quoted text that a written text is;
* `Quoted.scan_writeChars` -- it is cut out of whatever follows it;
* `Quoted.read_ofText` -- and stands for the text.
-/

namespace BoxOffice.Json

open BoxOffice.Text

/-- The piece that a written character is: controls without an escape of their own are units. -/
def Piece.ofChar (c : Char) : Piece :=
  match c with
  | '\x08' | '\x0c' | '\n' | '\r' | '\t' => .char c
  | c => if c < ' ' then .unit c.toNat else .char c

namespace Quoted

/-- The quoted text that a written text is. -/
def ofText (s : String) : Quoted := ⟨s.toList.map Piece.ofChar, .closed⟩

@[simp] theorem isClosed_ofText (s : String) : (ofText s).isClosed = true := rfl

/-! ## 1. Cutting out -/

/-- A character that is neither mark nor control is a piece by itself. -/
theorem scan_cons_of_plain {c : Char} (mark : c ≠ '"') (backslash : c ≠ '\\') (plain : ¬ c < ' ')
    (rest : List Char) : scan (c :: rest) = ((scan rest).1.cons (.char c), (scan rest).2) := by
  rw [scan, if_neg plain]
  · exact mark
  all_goals
    intros
    exact backslash ‹c = '\\'›

/-- A numeric escape of two digits is a unit. -/
theorem scan_unit {n : Nat} (hn : n < 0x20) (rest : List Char) :
    scan ('\\' :: 'u' :: '0' :: '0' :: lowerHexDigit (n / 16) :: lowerHexDigit (n % 16) :: rest) =
      ((scan rest).1.cons (.unit n), (scan rest).2) := by
  have digits : unit? '0' '0' (lowerHexDigit (n / 16)) (lowerHexDigit (n % 16)) = some n := by
    have zero : hexValue? '0'.toNat = some 0 := rfl
    have both : 16 * (n / 16) + n % 16 = n := Nat.div_add_mod n 16
    rw [unit?, zero, hexValue?_lowerHexDigit _ (by omega), hexValue?_lowerHexDigit _ (by omega)]
    simp only [Option.bind_eq_bind, Option.bind_some]
    exact congrArg some (by omega)
  rw [scan, digits]

/-- **A written character is one piece**, whatever follows it. -/
theorem scan_writeChar (c : Char) (rest : List Char) :
    scan (writeChar c ++ rest) = ((scan rest).1.cons (Piece.ofChar c), (scan rest).2) := by
  unfold writeChar
  split
  case h_8 _ mark backslash b f n r t =>
    rw [Piece.ofChar.eq_6 c b f n r t]
    split
    · next control => exact scan_unit control rest
    · next plain => exact scan_cons_of_plain mark backslash plain rest
  all_goals rfl

/-- **A written text is cut out of whatever follows it.** -/
theorem scan_writeChars (rest : List Char) : ∀ cs : List Char,
    scan (cs.flatMap writeChar ++ '"' :: rest) = (⟨cs.map Piece.ofChar, .closed⟩, rest)
  | [] => rfl
  | c :: cs => by
    rw [List.flatMap_cons, List.append_assoc, scan_writeChar, scan_writeChars rest cs]
    rfl

/-! ## 2. Reading -/

/-- A piece stands for its character, whatever follows it. -/
theorem readPieces_ofChar (e : QuotedEnd) (c : Char) (ps : List Piece) :
    readPieces e (Piece.ofChar c :: ps) = (readPieces e ps).map (c :: ·) := by
  unfold Piece.ofChar
  split
  case h_6 =>
    split
    · next control =>
      have small : c.toNat < 0x20 := control
      have low : isLow c.toNat = false := by
        rw [isLow, Bool.and_eq_false_iff, decide_eq_false_iff_not]
        omega
      have high : isHigh c.toNat = false := by
        rw [isHigh, Bool.and_eq_false_iff, decide_eq_false_iff_not]
        omega
      rw [readPieces.eq_def]
      simp only [low, high, Char.ofNat_toNat, Bool.false_eq_true, if_false]
    · rfl
  all_goals rfl

/-- **A written text reads back.** -/
@[simp] theorem read_ofText (s : String) : (ofText s).read = .ok s := by
  have pieces : ∀ cs : List Char, readPieces .closed (cs.map Piece.ofChar) = .ok cs := by
    intro cs
    induction cs with
    | nil => rfl
    | cons c cs ih =>
      rw [List.map_cons, readPieces_ofChar, ih]
      rfl
  rw [read, ofText, pieces]
  exact congrArg Except.ok String.ofList_toList

end Quoted

end BoxOffice.Json
