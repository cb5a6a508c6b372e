import BoxOffice.Client.Criteria
import BoxOffice.Proofs.Number.Digits

/-!
# What is recorded of criteria

* `FloatStyle.write_ne_nil` -- a written double has a character;
* `Criterion.Asks` -- the criteria that are neither absent nor the empty text; `Criterion.exists_render` -- each of them
  has a text, and that is not empty;
* `Made` -- how criteria come about: entries given at once, one after the other, or first the one and then the other;
  `Made.pairs_eq`, `Made.eq_ofEntries` -- it does not matter how, only which entries were given;
* `recorded` -- what is to be recorded of entries; `map_pair?_eq_recorded`, `lookup_pairs` -- their pairs are that;
* `criteria_recorded` -- so everything that can be asked of criteria is answered from it.
-/

namespace BoxOffice

open BoxOffice.Number

/-! ## 1. No text of a number is empty -/

namespace Number.FloatStyle

theorem placePoint_ne_nil (s : FloatStyle) {ds : List Char} (digits : ds ≠ []) (point : Int) :
    s.placePoint ds point ≠ [] := by
  unfold placePoint
  split
  · exact List.cons_ne_nil _ _
  · split
    · exact List.append_ne_nil_of_left_ne_nil (List.append_ne_nil_of_left_ne_nil digits _) _
    · exact List.append_ne_nil_of_right_ne_nil _ (List.cons_ne_nil _ _)

theorem withExponent_ne_nil (s : FloatStyle) (ds : List Char) (e : Int) : s.withExponent ds e ≠ [] := by
  unfold withExponent
  exact List.append_ne_nil_of_right_ne_nil _ (Nat.toDigits_ne_nil)

theorem writeDecimal_ne_nil (s : FloatStyle) (d : Decimal) : s.writeDecimal d ≠ [] := by
  unfold writeDecimal
  split
  · exact List.cons_ne_nil _ _
  · dsimp only
    split
    · exact s.placePoint_ne_nil (natDigits_ne_nil d.digits) _
    · exact s.withExponent_ne_nil _ _

/-- **A double is written with at least one character**, if there are words for a NaN and for the infinities. -/
theorem write_ne_nil {s : FloatStyle} (nan : s.nan.toList ≠ []) (infinity : s.infinity.toList ≠ []) (x : Float) :
    s.write x ≠ [] := by
  rw [write]
  cases Binary64.ofFloat x with
  | nan => exact nan
  | infinite negative => exact List.append_ne_nil_of_right_ne_nil _ infinity
  | finite negative x => exact List.append_ne_nil_of_right_ne_nil _ (s.writeDecimal_ne_nil _)

end Number.FloatStyle

namespace Client

/-! ## 2. One criterion -/

namespace Criterion

/-- **Something is asked for**: the criterion is neither absent nor the empty text. -/
def Asks (k : Criterion) : Prop := k ≠ .absent ∧ k ≠ .text ""

instance (k : Criterion) : Decidable k.Asks := inferInstanceAs (Decidable (_ ∧ _))

theorem isPresent_iff {k : Criterion} : k.isPresent = true ↔ k.Asks := by
  cases k <;> simp [isPresent, Asks]

/-- **Whatever is asked for has a text**, and that is not empty. -/
theorem exists_render {k : Criterion} (asks : k.Asks) : ∃ s, k.render = some s ∧ s ≠ "" := by
  have full : ∀ {cs : List Char}, cs ≠ [] → String.ofList cs ≠ "" := fun some_char empty =>
    some_char (String.ofList_eq_empty_iff.mp empty)
  cases k with
  | absent => exact absurd rfl asks.1
  | text s => exact ⟨s, rfl, fun empty => asks.2 (congrArg text empty)⟩
  | integer n => exact ⟨_, rfl, full (intDigits_ne_nil n.toInt)⟩
  | natural n => exact ⟨_, rfl, full (natDigits_ne_nil n.toNat)⟩
  | float x => exact ⟨_, rfl, full (FloatStyle.write_ne_nil (by decide +kernel) (by decide +kernel) x)⟩
  | boolean b => cases b <;> exact ⟨_, rfl, by decide⟩

end Criterion

namespace Criteria

variable {entries : List (String × Criterion)} {c : Criteria}

/-- An entry that asks for something has a pair. -/
theorem pair?_of_asks {e : String × Criterion} (asks : e.2.Asks) :
    ∃ s, pair? e = some (e.1, s) ∧ e.2.render = some s ∧ s ≠ "" := by
  obtain ⟨s, text, ne_empty⟩ := Criterion.exists_render asks
  refine ⟨s, ?_, text, ne_empty⟩
  rw [pair?, if_pos (Criterion.isPresent_iff.mpr asks), text]
  rfl

/-- Any other entry is dropped. -/
theorem pair?_of_not_asks {e : String × Criterion} (other : ¬ e.2.Asks) : pair? e = none := by
  rw [pair?, if_neg fun present => other (Criterion.isPresent_iff.mp present)]

/-! ## 3. Histories -/

/-- **How criteria come about**: there are none, or all entries are given at once, or one more is given. -/
inductive Made : List (String × Criterion) → Criteria → Prop
  | none : Made [] empty
  | atOnce (entries : List (String × Criterion)) : Made entries (ofEntries entries)
  | push {entries : List (String × Criterion)} {c : Criteria} (before : Made entries c) (name : String)
      (k : Criterion) : Made (entries ++ [(name, k)]) (c.push name k)

/-- What is recorded is the pairs of all entries, whatever the history. -/
theorem Made.pairs_eq (made : Made entries c) : c.pairs = entries.filterMap pair? := by
  induction made with
  | none => rfl
  | atOnce entries => exact pairs_ofEntries entries
  | push before name k ih =>
    -- the step: one more entry adds its pair at the end, if it has one
    rw [pairs_push, ih, List.filterMap_append, List.filterMap_cons, List.filterMap_nil]
    cases pair? (name, k) <;> rfl

theorem eq_of_pairs {d : Criteria} (same : c.pairs = d.pairs) : c = d := by
  cases c
  cases d
  cases same
  rfl

/-- So the history does not matter, only the entries do. -/
theorem Made.eq_ofEntries (made : Made entries c) : c = ofEntries entries :=
  eq_of_pairs (made.pairs_eq.trans (pairs_ofEntries entries).symm)

/-! ## 4. What is recorded -/

/-- **What is to be recorded of entries**: each one that asks for something, in order, with its text. -/
def recorded (entries : List (String × Criterion)) : List (String × Option String) :=
  (entries.filter fun e => decide e.2.Asks).map fun e => (e.1, e.2.render)

theorem recorded_of_asks {e : String × Criterion} (asks : e.2.Asks) :
    recorded (e :: entries) = (e.1, e.2.render) :: recorded entries := by
  simp [recorded, asks]

theorem recorded_of_not_asks {e : String × Criterion} (other : ¬ e.2.Asks) :
    recorded (e :: entries) = recorded entries := by
  simp [recorded, other]

/-- The pairs of entries are these. -/
theorem map_pair?_eq_recorded : ∀ entries : List (String × Criterion),
    (entries.filterMap pair?).map (fun p => (p.1, some p.2)) = recorded entries
  | [] => rfl
  | e :: entries => by
    have rest := map_pair?_eq_recorded entries
    rw [List.filterMap_cons]
    by_cases asks : e.2.Asks
    · obtain ⟨s, pair, text, _⟩ := pair?_of_asks asks
      rw [pair, recorded_of_asks asks, text, ← rest]
      rfl
    · rw [pair?_of_not_asks asks, recorded_of_not_asks asks]
      exact rest

/-- Under a name stands the text of the first entry of that name that asks for something. -/
theorem lookup_pairs (name : String) : ∀ entries : List (String × Criterion),
    (entries.filterMap pair?).lookup name =
      (entries.find? fun e => decide (e.1 = name ∧ e.2.Asks)).bind fun e => e.2.render
  | [] => rfl
  | e :: entries => by
    have rest := lookup_pairs name entries
    rw [List.filterMap_cons, List.find?_cons]
    by_cases asks : e.2.Asks
    · obtain ⟨s, pair, text, _⟩ := pair?_of_asks asks
      rw [pair, List.lookup_cons]
      by_cases same : e.1 = name
      · simp [same, asks, text]
      · rw [beq_eq_false_iff_ne.mpr (Ne.symm same), decide_eq_false fun first => same first.1]
        exact rest
    · -- an entry that is dropped leaves no pair, whatever its name, and the search passes it by
      simp [pair?_of_not_asks asks, asks, rest]

/-- The pairs of two lists of entries are the same if what is to be recorded of them is. -/
theorem filterMap_pair?_eq_iff (xs ys : List (String × Criterion)) :
    xs.filterMap pair? = ys.filterMap pair? ↔ recorded xs = recorded ys := by
  have pairs_inj : ∀ p q : String × String, (p.1, some p.2) = (q.1, some q.2) → p = q := by
    rintro ⟨_, _⟩ ⟨_, _⟩ same
    cases same
    rfl
  rw [← map_pair?_eq_recorded, ← map_pair?_eq_recorded, List.map_inj_right pairs_inj]

/-- **Criteria are what is to be recorded of their entries**, however they came about.

    Their pairs are the entries that ask for something, in the order in which these were given and as often, each with
    its text, which is not empty. Under a name stands the text of the first of these of that name, so no entry that
    is dropped hides a later one. Number, emptiness and equality are those of the pairs. What is recorded of entries
    and more entries is what is recorded of the ones, and then what is recorded of the others. -/
theorem criteria_recorded (made : Made entries c) :
    c.pairs.map (fun p => (p.1, some p.2)) = recorded entries ∧
    (∀ p ∈ c.pairs, p.2 ≠ "") ∧
    (∀ name, c.get? name =
      (entries.find? fun e => decide (e.1 = name ∧ e.2.Asks)).bind fun e => e.2.render) ∧
    c.size = (recorded entries).length ∧
    (c.isEmpty = true ↔ recorded entries = []) ∧
    (∀ others d, Made others d → ((c == d) = true ↔ recorded entries = recorded others)) ∧
    c = ofEntries entries ∧
    ∀ more, (ofEntries (entries ++ more)).pairs = (ofEntries entries).pairs ++ (ofEntries more).pairs := by
  have pairs := made.pairs_eq
  have all : c.pairs.map (fun p => (p.1, some p.2)) = recorded entries := by
    rw [pairs, map_pair?_eq_recorded]
  refine ⟨all, fun p mem => ?_, fun name => ?_, ?_, ?_, fun others d made' => ?_, made.eq_ofEntries, fun more => ?_⟩
  · rw [pairs, List.mem_filterMap] at mem
    obtain ⟨e, _, pair⟩ := mem
    by_cases asks : e.2.Asks
    · obtain ⟨s, pair', _, ne_empty⟩ := pair?_of_asks asks
      cases pair.symm.trans pair'
      exact ne_empty
    · cases pair.symm.trans (pair?_of_not_asks asks)
  · rw [get?, pairs, lookup_pairs]
  · rw [size, ← all, List.length_map]
  · rw [isEmpty, List.isEmpty_iff, ← all, List.map_eq_nil_iff]
  · rw [beq_iff_eq, ← filterMap_pair?_eq_iff, ← pairs, ← made'.pairs_eq]
    exact ⟨congrArg Criteria.pairs, eq_of_pairs⟩
  · exact pairs_ofEntries_append entries more

/-- Entries of which three are given at once, and two of the four of one name are dropped. -/
def sampleEntries : List (String × Criterion) :=
  [("city", .text "Wien"), ("size", .absent), ("size", .text "")] ++ [("size", .float 1.5)] ++ [("size", .natural 0)]

/-- The criteria that they become. -/
def sampleCriteria : Criteria :=
  ((ofEntries [("city", .text "Wien"), ("size", .absent), ("size", .text "")]).push "size" (.float 1.5)).push
    "size" (.natural 0)

/-- Entries that are dropped hide no later ones. -/
theorem criteria_recorded_inTwoParts : Made sampleEntries sampleCriteria ∧
    recorded sampleEntries = [("city", some "Wien"), ("size", some "1.5"), ("size", some "0")] ∧
    sampleCriteria.size = 3 ∧ sampleCriteria.get? "size" = some "1.5" := by
  have made : Made sampleEntries sampleCriteria := ((Made.atOnce _).push _ _).push _ _
  have all : recorded sampleEntries = [("city", some "Wien"), ("size", some "1.5"), ("size", some "0")] := by
    decide +kernel
  obtain ⟨_, _, get, size, _⟩ := criteria_recorded made
  refine ⟨made, all, ?_, ?_⟩
  · rw [size, all]
    rfl
  · rw [get]
    decide +kernel

end Criteria

end Client

end BoxOffice
