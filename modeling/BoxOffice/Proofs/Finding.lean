import BoxOffice.Proofs.Paging
import BoxOffice.Proofs.Text.LowerCase

/-!
# Searching a location by a part of its text

A search lower-cases both the text of a location and the wanted word. As a capital sigma has one lower case at
the end of a word and another one inside it, a part of a text that is cut off after a sigma need not occur in
the text any more.

* `LocationPart`, `Location.part` -- the texts of a location; `LocationFilter.only` -- the search in one of them;
* `mem_hits_only_iff` -- what that search finds;
* `found_by_part` -- a location is found by a part of its text whose sigmas end words as they do in the text,
  such as a part without a sigma, or a whole word;
* `museum_is_not_found` -- it is not found by every part.
-/

namespace BoxOffice

open BoxOffice.Text

/-! ## 1. The texts of a location -/

/-- A text of a location. -/
inductive LocationPart where
  | name
  | address
  | city
  | country
  | postalCode
  deriving DecidableEq, Repr

/-- The text itself. -/
def Location.part (l : Location) : LocationPart → String
  | .name => l.name
  | .address => l.address
  | .city => l.city
  | .country => l.country
  | .postalCode => l.postalCode

/-- **The search for a word in one text only.** -/
def LocationFilter.only (word : String) : LocationPart → LocationFilter
  | .name => ⟨some word, none, none, none, none⟩
  | .address => ⟨none, some word, none, none, none⟩
  | .city => ⟨none, none, some word, none, none⟩
  | .country => ⟨none, none, none, some word, none⟩
  | .postalCode => ⟨none, none, none, none, some word⟩

/-- It looks at that text, and at no other. -/
theorem LocationFilter.admits_only (word : String) (p : LocationPart) (l : Location) :
    (LocationFilter.only word p).admits l = containsWanted (l.part p) (some word) := by
  cases p <;> simp [only, admits, Location.part, containsWanted]

/-- **It finds the locations whose text contains the word.** -/
theorem Store.mem_hits_only_iff (s : Store) (word : String) (p : LocationPart) (k : Int64) (l : Location) :
    (k, l) ∈ s.hits (.only word p) ↔
      s.locations.get? k = some l ∧ containsWanted (l.part p) (some word) = true := by
  rw [mem_hits_iff, LocationFilter.admits_only]

/-! ## 2. Parts of a text -/

/-- **A location is found by a part of its text whose sigmas end words as they do in the text.** This is so
    for a part without a capital sigma and for a whole word. It takes no less for the lower case of the part
    to stand in the lower case of the text at the part's own place. -/
theorem found_by_part (l : Location) (p : LocationPart) {word : String} {a b : List Char}
    (parts : (l.part p).toList = a ++ word.toList ++ b) :
    lower (l.part p) = lowerIn [] (word.toList ++ b) a ++ lowerIn a.reverse b word.toList
      ++ lowerAfter (word.toList.reverse ++ a.reverse) b ∧
    (lowerIn a.reverse b word.toList = lower word ↔ SigmasAlike word.toList a.reverse b [] []) ∧
    ('Σ' ∉ word.toList ∨ (meetsCased a.reverse = false ∧ meetsCased b = false) →
      SigmasAlike word.toList a.reverse b [] []) ∧
    (SigmasAlike word.toList a.reverse b [] [] →
      containsWanted (l.part p) (some word) = true ∧
      ∀ (s : Store) (k : Int64), s.locations.get? k = some l → (k, l) ∈ s.hits (.only word p)) := by
  refine ⟨lower_parts parts, ?_, ?_, fun alike => ?_⟩
  · rw [lower_eq_lowerIn word, lowerIn_eq_iff]
  · rintro (none | ⟨first, last⟩)
    · exact .of_not_mem none _ _ _ _
    · exact .of_word first last _
  · have contained : containsWanted (l.part p) (some word) = true := containsFolded_of_part parts alike
    exact ⟨contained, fun s k stored => (s.mem_hits_only_iff word p k l).mpr ⟨stored, contained⟩⟩

/-- A street in Athens. -/
def street : Location := ⟨1, "ΟΔΟΣ ΑΘΗΝΑΣ 5", "", "", "", ""⟩

/-- It is found by a whole word, though that ends with a sigma. -/
theorem found_by_part_street :
    (street.part .name).toList = "ΟΔΟΣ ".toList ++ "ΑΘΗΝΑΣ".toList ++ " 5".toList ∧
    (meetsCased "ΟΔΟΣ ".toList.reverse = false ∧ meetsCased " 5".toList = false) ∧
    containsWanted (street.part .name) (some "ΑΘΗΝΑΣ") = true := by
  have parts : (street.part .name).toList = "ΟΔΟΣ ".toList ++ "ΑΘΗΝΑΣ".toList ++ " 5".toList := by decide +kernel
  have apart : meetsCased "ΟΔΟΣ ".toList.reverse = false ∧ meetsCased " 5".toList = false := by decide +kernel
  obtain ⟨_, _, alike, found⟩ := found_by_part street .name parts
  exact ⟨parts, apart, (found (alike (Or.inr apart))).1⟩

/-- A museum. -/
def museum : Location := ⟨1, "ΜΟΥΣΕΙΟ", "", "", "", ""⟩

/-- **Not every part of a text finds its location**: the museum is not found by the first letters of its
    name, as their sigma ends the word there. -/
theorem museum_is_not_found :
    ¬ ∀ (l : Location) (p : LocationPart) (word : String),
      word.toList <:+: (l.part p).toList → containsWanted (l.part p) (some word) = true := by
  intro h
  have part : "ΜΟΥΣ".toList <:+: (museum.part .name).toList := ⟨[], "ΕΙΟ".toList, by decide +kernel⟩
  have missed : containsWanted (museum.part .name) (some "ΜΟΥΣ") = false := by decide +kernel
  rw [h museum .name "ΜΟΥΣ" part] at missed
  cases missed

end BoxOffice
