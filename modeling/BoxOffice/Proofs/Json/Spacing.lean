import BoxOffice.Proofs.Json.Quoted
import BoxOffice.Proofs.Json.Tokens

/-!
# White space between tokens

* `Token.IsProper` -- a token that neither broke off nor went wrong; a complete tree has no others;
* `Token.Apart` -- what cannot go on with a number, such as white space;
* `Token.first_append` -- a proper token is the same before anything apart from it;
* `Token.scan_spaced` -- so white space between tokens leaves them as they are.
-/

namespace BoxOffice.Json

/-! ## 1. Proper tokens -/

/-- The token neither broke off nor went wrong. -/
def Token.IsProper : Token → Prop
  | .quoted q => q.isClosed = true
  | .brokenWord _ | .brokenNumber _ | .stray _ => False
  | _ => True

namespace Tree

theorem proper_itemTokens : ∀ {ts : List Tree}, (∀ t ∈ ts, ∀ a ∈ t.tokens, a.IsProper) →
    ∀ a ∈ itemTokens ts, a.IsProper
  | [], _, a, h => by cases h
  | [t], all, a, h => all t List.mem_cons_self a h
  | t :: u :: ts, all, a, h => by
    rcases List.mem_append.mp h with h | h
    · exact all t List.mem_cons_self a h
    · rcases List.mem_cons.mp h with rfl | h
      · trivial
      · exact proper_itemTokens (fun t' h' => all t' (List.mem_cons_of_mem t h')) a h

theorem proper_memberToken {m : Quoted × Tree} (key : m.1.isClosed = true)
    (value : ∀ a ∈ m.2.tokens, a.IsProper) : ∀ a ∈ memberToken m, a.IsProper := by
  obtain ⟨k, t⟩ := m
  intro a h
  rcases List.mem_cons.mp h with rfl | h
  · exact key
  · rcases List.mem_cons.mp h with rfl | h
    · trivial
    · exact value a h

theorem proper_memberTokens : ∀ {ms : List (Quoted × Tree)}, (∀ m ∈ ms, ∀ a ∈ memberToken m, a.IsProper) →
    ∀ a ∈ memberTokens ms, a.IsProper
  | [], _, a, h => by cases h
  | [m], all, a, h => all m List.mem_cons_self a h
  | m :: n :: ms, all, a, h => by
    rcases List.mem_append.mp h with h | h
    · exact all m List.mem_cons_self a h
    · rcases List.mem_cons.mp h with rfl | h
      · trivial
      · exact proper_memberTokens (fun m' h' => all m' (List.mem_cons_of_mem m h')) a h

/-- **The tokens of a complete tree are proper.** -/
theorem Complete.proper {t : Tree} (complete : t.Complete) : ∀ a ∈ t.tokens, a.IsProper := by
  induction complete with
  | null | boolean | number =>
    intro a h
    cases List.mem_singleton.mp h
    trivial
  | text closed =>
    intro a h
    cases List.mem_singleton.mp h
    exact closed
  | list all ih =>
    intro a h
    rw [tokens, List.mem_cons, List.mem_append, List.mem_singleton] at h
    rcases h with rfl | h | rfl
    · trivial
    · exact proper_itemTokens ih a h
    · trivial
  | object keys values ih =>
    intro a h
    rw [tokens, List.mem_cons, List.mem_append, List.mem_singleton] at h
    rcases h with rfl | h | rfl
    · trivial
    · exact proper_memberTokens (fun m mem => proper_memberToken (keys m mem) (ih m mem)) a h
    · trivial

end Tree

/-! ## 2. Tokens before what is apart from them -/

namespace Token

/-- The text does not go on with a number that may stand before it. -/
def Apart (cs : List Char) : Prop :=
  ∀ c rest, cs = c :: rest → isDigit c = false ∧ c ≠ '.' ∧ c ≠ 'e' ∧ c ≠ 'E'

variable {after : List Char}

theorem digits_before (apart : Apart after) : ∀ cs : List Char,
    leadingDigits (cs ++ after) = leadingDigits cs ∧
      (cs ++ after).dropWhile isDigit = cs.dropWhile isDigit ++ after
  | [] => by
    cases after with
    | nil => exact ⟨rfl, rfl⟩
    | cons c rest =>
      have other := (apart c rest rfl).1
      simp [leadingDigits, other]
  | c :: cs => by
    obtain ⟨digits, rest⟩ := digits_before apart cs
    cases digit : isDigit c with
    | false => simp [leadingDigits, digit]
    | true => simpa [leadingDigits, digit] using And.intro digits rest

theorem exponentSign_append : ∀ {cs : List Char}, cs ≠ [] →
    exponentSign (cs ++ after) = ((exponentSign cs).1, (exponentSign cs).2 ++ after)
  | c :: cs, _ => by
    rw [List.cons_append]
    unfold exponentSign
    split <;> simp_all

variable {negative : Bool} {w f : List Nat} {a : Token} {rest : List Char}

theorem scanExponent_append (apart : Apart after) {cs : List Char}
    (cut : scanExponent negative w f cs = (a, rest)) (proper : a.IsProper) :
    scanExponent negative w f (cs ++ after) = (a, rest ++ after) := by
  cases cs with
  | nil =>
    cases cut
    cases after with
    | nil => rfl
    | cons c cs =>
      have other := (apart c cs rfl).2.2
      exact if_neg (not_or.mpr other)
  | cons e cs =>
    rw [List.cons_append]
    unfold scanExponent at cut ⊢
    dsimp only at cut ⊢
    by_cases mark : e = 'e' ∨ e = 'E'
    · rw [if_pos mark] at cut ⊢
      have some_char : cs ≠ [] := by
        rintro rfl
        cases cut
        exact proper
      obtain ⟨digits, later⟩ := digits_before apart (exponentSign cs).2
      rw [exponentSign_append some_char]
      simp only [digits, later]
      split
      · next none =>
        rw [none] at cut
        cases cut
        exact absurd proper id
      · next ds none =>
        simp only at cut
        cases cut
        rfl
    · rw [if_neg mark] at cut ⊢
      cases cut
      rfl

theorem scanFraction_append (apart : Apart after) {cs : List Char}
    (cut : scanFraction negative w cs = (a, rest)) (proper : a.IsProper) :
    scanFraction negative w (cs ++ after) = (a, rest ++ after) := by
  unfold scanFraction at cut
  split at cut
  · next cs =>
    obtain ⟨digits, later⟩ := digits_before apart cs
    rw [List.cons_append, scanFraction, digits, later]
    split at cut
    · cases cut
      exact absurd proper id
    · exact scanExponent_append apart cut proper
  · next plain =>
    rw [← scanExponent_append apart cut proper]
    cases cs with
    | nil =>
      rw [List.nil_append]
      unfold scanFraction
      split
      · next rest => exact absurd rfl (apart '.' rest rfl).2.1
      · rfl
    | cons c cs =>
      rw [List.cons_append]
      unfold scanFraction
      split
      · next e =>
        cases e
        exact absurd rfl (plain cs)
      · rfl

/-- A number is the same before what is apart from it. -/
theorem scanNumber_append (apart : Apart after) {cs : List Char}
    (cut : scanNumber negative cs = (a, rest)) (proper : a.IsProper) :
    scanNumber negative (cs ++ after) = (a, rest ++ after) := by
  obtain ⟨digits, later⟩ := digits_before apart cs
  unfold scanNumber at cut ⊢
  rw [digits, later]
  split at cut
  · cases cut
    exact absurd proper id
  · cases cut
    exact absurd proper id
  · exact scanFraction_append apart cut proper

theorem afterWord_append : ∀ {word cs rest : List Char}, afterWord word cs = .ok rest →
    afterWord word (cs ++ after) = .ok (rest ++ after)
  | [], _, _, h => by
    cases h
    rfl
  | _ :: _, [], _, h => by cases h
  | w :: ws, c :: cs, rest, h => by
    rw [List.cons_append]
    unfold afterWord at h ⊢
    split at h
    · next same =>
      rw [if_pos same]
      exact afterWord_append h
    · cases h

/-- So is a word, whatever follows it. -/
theorem scanWord_append {t : Token} {word cs : List Char} (cut : scanWord t word cs = (a, rest))
    (proper : a.IsProper) : scanWord t word (cs ++ after) = (a, rest ++ after) := by
  unfold scanWord at cut ⊢
  split at cut
  · next h =>
    rw [afterWord_append h]
    cases cut
    rfl
  · cases cut
    exact absurd proper id

end Token

/-- And so is a text that ends at its mark. -/
theorem Quoted.scan_append (after : List Char) (cs : List Char) (closed : (scan cs).1.isClosed = true) :
    scan (cs ++ after) = ((scan cs).1, (scan cs).2 ++ after) := by
  fun_induction scan cs with
  | case1 => cases closed
  | case2 cs => rfl
  | case3 a b c d cs n unit ih =>
    simp only [List.cons_append, scan, unit, ih closed]
  | case4 => cases closed
  | case5 cs =>
    simp only [isClosed, shortUnitEnd] at closed
    split at closed <;> cases closed
  | case6 e cs _ plain c escaped ih =>
    rw [List.cons_append, List.cons_append, scan, escaped]
    · simp only [ih closed]
    · exact fun a b c' d cs' same => absurd same plain
    · exact plain
  | case7 => cases closed
  | case8 => cases closed
  | case9 => cases closed
  | case10 c cs mark _ _ escape last control ih =>
    have backslash : c ≠ '\\' := by
      intro same
      cases cs with
      | nil => exact last same rfl
      | cons e cs => exact escape e cs same rfl
    rw [List.cons_append, scan_cons_of_plain mark backslash control, ih closed]

namespace Token

/-- **A proper token is the same before anything that is apart from it.** -/
theorem first_append {after : List Char} (apart : Apart after) {c : Char} {cs rest : List Char} {a : Token}
    (cut : first c cs = (a, rest)) (proper : a.IsProper) : first c (cs ++ after) = (a, rest ++ after) := by
  unfold first at cut ⊢
  split at cut
  case h_1 | h_2 | h_3 | h_4 | h_5 | h_6 =>
    cases cut
    rfl
  case h_7 | h_8 | h_9 => exact scanWord_append cut proper
  case h_10 =>
    dsimp only at cut ⊢
    cases cut
    have closed : (Quoted.scan cs).1.isClosed = true := proper
    rw [Quoted.scan_append after cs closed, if_pos closed, if_pos closed]
  case h_11 => exact scanNumber_append apart cut proper
  case h_12 =>
    split at cut
    · next digit =>
      rw [if_pos digit]
      exact scanNumber_append apart cut proper
    · cases cut
      exact absurd proper id

/-- **What is apart from the tokens before it is cut by itself.** -/
theorem scan_append {after : List Char} (apart : Apart after) {cs : List Char}
    (proper : ∀ a ∈ scan cs, a.IsProper) : scan (cs ++ after) = scan cs ++ scan after := by
  fun_induction scan cs with
  | case1 => rfl
  | case2 c cs space ih =>
    rw [List.cons_append, scan_space space, ih proper]
  | case3 c cs other ih =>
    have same : first c (cs ++ after) = ((first c cs).1, (first c cs).2 ++ after) :=
      first_append apart rfl (proper _ List.mem_cons_self)
    rw [List.cons_append, scan_token (Bool.eq_false_iff.mpr other), same, List.cons_append,
      ih fun a h => proper a (List.mem_cons_of_mem _ h)]

end Token

end BoxOffice.Json
