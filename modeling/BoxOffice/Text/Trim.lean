/-!
# Cutting texts: trimming, splitting, searching

Operations on texts as lists of characters:

* `dropEndWhile p cs`, `trimBoth p cs` -- `cs` without its longest tail (without its longest head
  and tail) of characters with `p`;
* `splitOn sep cs` -- the pieces of `cs` between the separators, at least one;
* `cutAt sep cs` -- what stands before the first separator, and what stands after it if there is
  one;
* `occursIn word cs` -- `word` is a contiguous part of `cs`;
* `splitOn_append`, `cutAt_append` -- a text is cut at its first separator; `occursIn_eq_true_iff` -- what occurs.
-/

namespace BoxOffice.Text

/-! ## 1. Trimming -/

/-- The text without its longest tail of characters with `p`. -/
def dropEndWhile (p : Char → Bool) (cs : List Char) : List Char :=
  (cs.reverse.dropWhile p).reverse

/-- The text without its longest head and its longest tail of characters with `p`. -/
def trimBoth (p : Char → Bool) (cs : List Char) : List Char :=
  dropEndWhile p (cs.dropWhile p)

@[simp] theorem dropEndWhile_nil (p : Char → Bool) : dropEndWhile p [] = [] := rfl

/-- A last character without `p` stays, and so does all before it. -/
theorem dropEndWhile_concat_of_neg (p : Char → Bool) {c : Char} (hc : p c = false)
    (cs : List Char) : dropEndWhile p (cs ++ [c]) = cs ++ [c] := by
  simp [dropEndWhile, hc]

/-! ## 2. Splitting -/

/-- The pieces of a text between its separators. -/
def splitOn (sep : Char) : List Char → List (List Char)
  | [] => [[]]
  | c :: cs =>
    if c = sep then [] :: splitOn sep cs
    else match splitOn sep cs with
      | [] => [[c]]
      | w :: ws => (c :: w) :: ws

/-- A text without separators is one piece. -/
theorem splitOn_of_not_mem {sep : Char} : ∀ {cs : List Char}, sep ∉ cs → splitOn sep cs = [cs]
  | [], _ => rfl
  | c :: cs, h => by
    have h1 : c ≠ sep := fun e => h (e ▸ List.mem_cons_self)
    have h2 : sep ∉ cs := fun m => h (List.mem_cons_of_mem _ m)
    simp [splitOn, h1, splitOn_of_not_mem h2]

/-- The first piece ends at the first separator. -/
theorem splitOn_append {sep : Char} (rest : List Char) : ∀ {cs : List Char}, sep ∉ cs →
    splitOn sep (cs ++ sep :: rest) = cs :: splitOn sep rest
  | [], _ => by simp [splitOn]
  | c :: cs, h => by
    have h1 : c ≠ sep := fun e => h (e ▸ List.mem_cons_self)
    have h2 : sep ∉ cs := fun m => h (List.mem_cons_of_mem _ m)
    simp [splitOn, h1, splitOn_append rest h2]

/-- What stands before the first separator, and what stands after it if there is one. -/
def cutAt (sep : Char) : List Char → List Char × Option (List Char)
  | [] => ([], none)
  | c :: cs =>
    if c = sep then ([], some cs)
    else ((c :: (cutAt sep cs).1), (cutAt sep cs).2)

/-- A text without separators stays in front of the cut. -/
theorem cutAt_append_of_not_mem {sep : Char} : ∀ {cs : List Char}, sep ∉ cs → ∀ rest : List Char,
    cutAt sep (cs ++ rest) = (cs ++ (cutAt sep rest).1, (cutAt sep rest).2)
  | [], _, _ => rfl
  | c :: cs, h, rest => by
    have h1 : c ≠ sep := fun e => h (e ▸ List.mem_cons_self)
    have h2 : sep ∉ cs := fun m => h (List.mem_cons_of_mem _ m)
    simp [cutAt, h1, cutAt_append_of_not_mem h2 rest]

/-- A text without separators is not cut. -/
theorem cutAt_of_not_mem {sep : Char} {cs : List Char} (h : sep ∉ cs) : cutAt sep cs = (cs, none) := by
  simpa [cutAt] using cutAt_append_of_not_mem h []

/-- A text with a separator is cut at the first one. -/
theorem cutAt_append {sep : Char} (rest : List Char) {cs : List Char} (h : sep ∉ cs) :
    cutAt sep (cs ++ sep :: rest) = (cs, some rest) := by
  simpa [cutAt] using cutAt_append_of_not_mem h (sep :: rest)

/-! ## 3. Searching -/

/-- `word` is a contiguous part of the text. -/
def occursIn (word : List Char) : List Char → Bool
  | [] => word.isEmpty
  | c :: cs => word.isPrefixOf (c :: cs) || occursIn word cs

/-- A word occurs exactly if it is a contiguous part. -/
theorem occursIn_eq_true_iff (word : List Char) : ∀ cs, occursIn word cs = true ↔ word <:+: cs
  | [] => by rw [occursIn, List.isEmpty_iff, List.infix_nil]
  | c :: cs => by
    rw [occursIn, Bool.or_eq_true, List.isPrefixOf_iff_prefix, occursIn_eq_true_iff word cs,
      List.infix_cons_iff]

/-- The empty word occurs everywhere. -/
@[simp] theorem occursIn_nil (cs : List Char) : occursIn [] cs = true :=
  (occursIn_eq_true_iff [] cs).mpr (List.nil_infix)

end BoxOffice.Text
