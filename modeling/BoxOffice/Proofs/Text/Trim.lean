import Mathlib.Data.List.DropRight
import BoxOffice.Text.Blank

/-!
# What trimming leaves

* `IsCore p cs core` -- `core` stands between characters with `p`, and neither begins nor ends with one;
* `dropEndWhile_append_of_pos`, `last_dropEndWhile`, `dropEndWhile_eq_self` -- what goes at the end of a text;
* `isCore_trimBoth`, `trimBoth_eq_iff` -- so trimming leaves the core, and there is one core only;
* `trimBoth_eq_nil_iff_all` -- it leaves nothing exactly of texts of characters with `p`;
* `isAllBlank_iff`, `not_isAllBlank_iff`, `trimBlank_eq_nil_iff` -- texts of white space only, and all others.
-/

namespace BoxOffice.Text

/-! ## 1. Characters around a text -/

/-- **The text `core` is `cs` without the characters with `p` around it.** -/
structure IsCore (p : Char → Bool) (cs core : List Char) : Prop where
  around : ∃ front back, cs = front ++ core ++ back ∧ (∀ c ∈ front, p c = true) ∧ ∀ c ∈ back, p c = true
  first : ∀ c, core.head? = some c → p c = false
  last : ∀ c, core.getLast? = some c → p c = false

variable {p : Char → Bool} {cs core : List Char}

/-- A tail of characters with `p` goes. -/
theorem dropEndWhile_append_of_pos {back : List Char} (h : ∀ c ∈ back, p c = true) :
    dropEndWhile p (cs ++ back) = dropEndWhile p cs := by
  have tail : ∀ c ∈ back.reverse, p c = true := fun c mem => h c (List.mem_reverse.mp mem)
  rw [dropEndWhile, dropEndWhile, List.reverse_append, List.dropWhile_append_of_pos tail]

theorem last_dropEndWhile (cs : List Char) (c : Char) (last : (dropEndWhile p cs).getLast? = some c) :
    p c = false := by
  obtain ⟨ne_nil, rfl⟩ := List.mem_getLast?_eq_getLast last
  exact Bool.eq_false_iff.mpr (List.rdropWhile_last_not p cs ne_nil)

/-- A text that does not end with a character with `p` stays as it is. -/
theorem dropEndWhile_eq_self (last : ∀ c, cs.getLast? = some c → p c = false) : dropEndWhile p cs = cs :=
  List.rdropWhile_eq_self_iff.mpr fun ne_nil =>
    Bool.eq_false_iff.mp (last _ (List.getLast?_eq_some_getLast ne_nil))

/-- **Trimming leaves the core.** -/
theorem isCore_trimBoth (p : Char → Bool) (cs : List Char) : IsCore p cs (trimBoth p cs) where
  around := by
    refine ⟨cs.takeWhile p, (cs.dropWhile p).rtakeWhile p, ?_, fun _ => List.mem_takeWhile_imp,
      fun _ => List.mem_rtakeWhile_imp⟩
    have tail : trimBoth p cs ++ (cs.dropWhile p).rtakeWhile p = cs.dropWhile p :=
      List.rdropWhile_append_rtakeWhile
    rw [List.append_assoc, tail, List.takeWhile_append_dropWhile]
  first := by
    intro c first
    obtain ⟨back, tail⟩ : trimBoth p cs <+: cs.dropWhile p := List.rdropWhile_prefix p _
    have found := List.head?_dropWhile_not p cs
    rw [← tail, List.head?_append, first] at found
    exact found
  last := last_dropEndWhile _

/-- **And there is one core only.** -/
theorem trimBoth_eq_iff : trimBoth p cs = core ↔ IsCore p cs core := by
  refine ⟨fun h => h ▸ isCore_trimBoth p cs, fun h => ?_⟩
  obtain ⟨front, back, rfl, head, tail⟩ := h.around
  rw [trimBoth, List.append_assoc, List.dropWhile_append_of_pos head]
  cases core with
  | nil =>
    -- all of the text has `p`, so the cut between front and back may stand anywhere
    rw [List.nil_append, List.dropWhile_eq_nil_iff.mpr tail]
    rfl
  | cons c core =>
    rw [List.cons_append, List.dropWhile_cons_of_neg (by rw [h.first c rfl]; decide), ← List.cons_append,
      dropEndWhile_append_of_pos tail, dropEndWhile_eq_self h.last]

/-- Nothing is left of a text if, and only if, all of it has `p`. -/
theorem trimBoth_eq_nil_iff_all : trimBoth p cs = [] ↔ ∀ c ∈ cs, p c = true := by
  constructor
  · intro left c mem
    obtain ⟨front, back, parts, head, tail⟩ := (isCore_trimBoth p cs).around
    rw [parts, left, List.append_nil] at mem
    exact (List.mem_append.mp mem).elim (head c) (tail c)
  · intro all
    exact trimBoth_eq_iff.mpr ⟨⟨cs, [], by rw [List.append_nil, List.append_nil], all, nofun⟩, nofun, nofun⟩

/-! ## 2. White space -/

theorem isAllBlank_iff {s : String} : isAllBlank s = true ↔ ∀ c ∈ s.toList, isBlank c = true := List.all_eq_true

theorem not_isAllBlank_iff {s : String} : (!isAllBlank s) = true ↔ ∃ c ∈ s.toList, isBlank c = false := by
  rw [Bool.not_eq_true', isAllBlank, List.all_eq_false]
  simp only [Bool.not_eq_true]

/-- A text is blank exactly if trimming leaves nothing. -/
theorem trimBlank_eq_nil_iff (s : String) : trimBlank s = [] ↔ isAllBlank s = true :=
  trimBoth_eq_nil_iff_all.trans isAllBlank_iff.symm

end BoxOffice.Text
