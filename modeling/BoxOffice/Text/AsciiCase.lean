/-!
# Names that differ in case only

`sameName a b` compares two header names: upper and lower case ASCII letters count as the same, and
no other characters do. `firstNamed name pairs` is the value of the first pair of that name.
-/

namespace BoxOffice.Text

/-- The text with its ASCII letters in lower case. -/
def foldName (s : String) : List Char := s.toList.map Char.toLower

/-- Two names are the same up to the case of ASCII letters. -/
def sameName (a b : String) : Bool := foldName a == foldName b

/-- The value of the first pair of a name. -/
def firstNamed (name : String) (pairs : List (String × String)) : Option String :=
  (pairs.find? fun p => sameName p.1 name).map (·.2)

@[simp] theorem sameName_self (a : String) : sameName a a = true := by
  simp [sameName]

/-- Names that are the same as one are the same as each other. -/
theorem sameName_trans {a b c : String} (h : sameName a b = true) (k : sameName b c = true) :
    sameName a c = true := by
  simp only [sameName, beq_iff_eq] at *
  exact h.trans k

theorem sameName_symm {a b : String} (h : sameName a b = true) : sameName b a = true := by
  simp only [sameName, beq_iff_eq] at *
  exact h.symm

end BoxOffice.Text
