import BoxOffice.Text.Blank
import BoxOffice.Text.CaseTable

/-!
# Lower case

Full lower-casing of a text, as a search uses it on both of its sides:

* a character goes to its lower-case partner, İ (U+0130) to the two characters i and U+0307;
* a capital sigma at the end of a word becomes the final form ς, any other one σ. It ends a word
  if the last character before it that is not case-ignorable is cased, and the next one after it
  that is not case-ignorable is not (or is missing).
-/

namespace BoxOffice.Text

/-- The code point lies in the run. -/
def LowerRun.covers (r : LowerRun) (n : Nat) : Bool :=
  decide (r.first ≤ n) && decide (n ≤ r.last) && (n - r.first) % r.step == 0

/-- The lower case of one character, wherever it stands. -/
def lowerChar (c : Char) : List Char :=
  if c.toNat = 0x130 then ['i', '\u0307']
  else match lowerRuns.find? (·.covers c.toNat) with
    | some r => [Char.ofNat ((c.toNat : Int) + r.shift).toNat]
    | none => [c]

/-- The character has a case. -/
def isCased (c : Char) : Bool := inRanges casedRanges c.toNat

/-- The character is looked through when a word's last cased letter is sought. -/
def isCaseIgnorable (c : Char) : Bool := inRanges caseIgnorableRanges c.toNat

/-- The first character that is not case-ignorable exists and is cased. -/
def meetsCased (cs : List Char) : Bool :=
  match cs.dropWhile isCaseIgnorable with
  | [] => false
  | c :: _ => isCased c

/-- The lower case of `cs`, where `before` holds the characters before it, nearest first. -/
def lowerAfter (before : List Char) : List Char → List Char
  | [] => []
  | c :: cs =>
    (if c = 'Σ' then [if meetsCased before && !meetsCased cs then 'ς' else 'σ'] else lowerChar c)
      ++ lowerAfter (c :: before) cs

/-- **The lower case of a text.** -/
def lower (s : String) : List Char := lowerAfter [] s.toList

/-- The lower case of `word` occurs in the lower case of `s`. -/
def containsFolded (s word : String) : Bool := occursIn (lower word) (lower s)

/-- The empty word occurs in every text. -/
@[simp] theorem containsFolded_empty (s : String) : containsFolded s "" = true := by
  have h : lower "" = [] := rfl
  rw [containsFolded, h, occursIn_nil]

end BoxOffice.Text
