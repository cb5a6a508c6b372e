import BoxOffice.Text.LowerCase

/-!
# The lower case of a part of a text

Lower-casing goes character by character, but for the capital sigma, whose lower case depends on what
stands around it. So the lower case of a text holds the lower case of each of its parts, as long as every
capital sigma of the part ends a word in the part exactly if it does in the text.

* `endsWord before after` -- a sigma between these ends a word;
* `lowerIn before after cs` -- the lower case of `cs` where it stands; `lower_parts` -- that of a text is put
  together from those of its parts, where they stand;
* `SigmasAlike` -- the sigmas of a part end words in two places alike, as they do if there is none
  (`of_not_mem`) or if the part is a whole word (`of_word`); `lowerIn_eq_iff` -- exactly then its lower case is
  the same in both;
* `containsFolded_of_part` -- so a text contains such a part.
-/

namespace BoxOffice.Text

/-- A sigma between `before`, nearest first, and `after` ends a word. -/
def endsWord (before after : List Char) : Bool := meetsCased before && !meetsCased after

/-- **The lower case of `cs` where it stands**, between `before`, nearest first, and `after`. -/
def lowerIn (before after : List Char) : List Char → List Char
  | [] => []
  | c :: cs =>
    (if c = 'Σ' then [if endsWord before (cs ++ after) then 'ς' else 'σ'] else lowerChar c)
      ++ lowerIn (c :: before) after cs

/-! ## 1. Texts in parts -/

/-- Lower-casing goes on after a part where it is. -/
theorem lowerAfter_append (after : List Char) : ∀ (cs before : List Char),
    lowerAfter before (cs ++ after) = lowerIn before after cs ++ lowerAfter (cs.reverse ++ before) after
  | [], before => rfl
  | c :: cs, before => by
    rw [List.cons_append, lowerAfter, lowerAfter_append after cs (c :: before), lowerIn, List.append_assoc,
      List.reverse_cons, List.append_assoc]
    rfl

/-- A text stands alone. -/
theorem lower_eq_lowerIn (s : String) : lower s = lowerIn [] [] s.toList := by
  have alone := lowerAfter_append [] s.toList []
  rwa [List.append_nil, lowerAfter, List.append_nil] at alone

/-- **The lower case of a text is that of its parts, where they stand.** -/
theorem lower_parts {s : String} {a w b : List Char} (parts : s.toList = a ++ w ++ b) :
    lower s = lowerIn [] (w ++ b) a ++ lowerIn a.reverse b w ++ lowerAfter (w.reverse ++ a.reverse) b := by
  rw [lower, parts, List.append_assoc, lowerAfter_append, lowerAfter_append, List.append_nil, List.append_assoc]

/-! ## 2. Parts that have one lower case -/

/-- **Every capital sigma of `w` ends a word in both places or in neither**: between `before` and `after`, and
    between `before'` and `after'`. -/
def SigmasAlike (w before after before' after' : List Char) : Prop :=
  ∀ x y, w = x ++ 'Σ' :: y →
    endsWord (x.reverse ++ before) (y ++ after) = endsWord (x.reverse ++ before') (y ++ after')

/-- Where there is no capital sigma, nothing depends on the place. -/
theorem SigmasAlike.of_not_mem {w : List Char} (none : 'Σ' ∉ w) (before after before' after' : List Char) :
    SigmasAlike w before after before' after' := by
  rintro x y rfl
  exact absurd (List.mem_append_right x List.mem_cons_self) none

/-- Looking for a cased letter goes no further than a place where there is none. -/
theorem meetsCased_append {ys : List Char} (none : meetsCased ys = false) : ∀ xs : List Char,
    meetsCased (xs ++ ys) = meetsCased xs
  | [] => none
  | c :: xs => by
    by_cases ignored : isCaseIgnorable c = true
    · have rest := meetsCased_append none xs
      simp only [meetsCased, List.cons_append, List.dropWhile_cons_of_pos ignored] at rest ⊢
      exact rest
    · simp only [meetsCased, List.cons_append, List.dropWhile_cons_of_neg ignored]

/-- What stands beside a whole word does not matter to its sigmas. -/
theorem SigmasAlike.of_word {before after : List Char} (first : meetsCased before = false)
    (last : meetsCased after = false) (w : List Char) : SigmasAlike w before after [] [] := by
  intro x y _
  rw [endsWord, endsWord, meetsCased_append first, meetsCased_append last, List.append_nil, List.append_nil]

/-- The first character, and those after it. -/
theorem sigmasAlike_cons {c : Char} {w before after before' after' : List Char} :
    SigmasAlike (c :: w) before after before' after' ↔
      (c = 'Σ' → endsWord before (w ++ after) = endsWord before' (w ++ after')) ∧
      SigmasAlike w (c :: before) after (c :: before') after' := by
  constructor
  · intro alike
    refine ⟨fun sigma => alike [] w (by rw [sigma]; rfl), fun x y parts => ?_⟩
    have there := alike (c :: x) y (by rw [parts]; rfl)
    rwa [List.reverse_cons, List.append_assoc, List.append_assoc] at there
  · rintro ⟨here, there⟩ x y parts
    cases x with
    | nil =>
      obtain ⟨rfl, rfl⟩ := List.cons.inj parts
      exact here rfl
    | cons c' x =>
      obtain ⟨rfl, rfl⟩ := List.cons.inj parts
      rw [List.reverse_cons, List.append_assoc, List.append_assoc]
      exact there x y rfl

/-- **The lower case is the same in two places exactly if the sigmas end words alike.** -/
theorem lowerIn_eq_iff {after after' : List Char} : ∀ {w before before' : List Char},
    lowerIn before after w = lowerIn before' after' w ↔ SigmasAlike w before after before' after'
  | [], before, before' => by
    simp [lowerIn, SigmasAlike]
  | c :: w, before, before' => by
    rw [sigmasAlike_cons, ← lowerIn_eq_iff, lowerIn, lowerIn]
    by_cases sigma : c = 'Σ'
    · -- the two forms of a sigma are different
      rw [if_pos sigma, if_pos sigma, List.singleton_append, List.singleton_append, List.cons.injEq]
      refine and_congr_left fun _ => ?_
      cases endsWord before (w ++ after) <;> cases endsWord before' (w ++ after') <;> simp [sigma]
    · rw [if_neg sigma, if_neg sigma, List.append_cancel_left_eq]
      exact ⟨fun rest => ⟨fun e => absurd e sigma, rest⟩, fun h => h.2⟩

/-- **A text contains a part of it whose sigmas end words as they do in the text.** -/
theorem containsFolded_of_part {s word : String} {a b : List Char} (parts : s.toList = a ++ word.toList ++ b)
    (alike : SigmasAlike word.toList a.reverse b [] []) : containsFolded s word = true := by
  have same : lowerIn a.reverse b word.toList = lower word := by
    rw [lower_eq_lowerIn]
    exact lowerIn_eq_iff.mpr alike
  rw [containsFolded, occursIn_eq_true_iff, lower_parts parts, same]
  exact List.infix_append _ _ _

end BoxOffice.Text
