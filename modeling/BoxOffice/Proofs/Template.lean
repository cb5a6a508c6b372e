import Mathlib.Data.List.Basic
import BoxOffice.Client.Endpoint

/-!
# What a path template stands for

A template is read from left to right: texts that stand for themselves, names in braces that stand for arguments,
and a tail in which no brace is closed. What is put in for a name is not read again, so it may hold braces.

* `Reading` -- a template as it is read; `Reading.text`, `Reading.names`, `Reading.filled` -- its text, its names,
  and its text with values for the names; `exists_reading` -- every template has a reading;
* `placeholder?_append`, `placeholder?_literal`, `placeholder?_of_unclosed` -- the first placeholder of a text;
* `Reading.Lacks` -- the leftmost name without an argument;
* `renderPath_of_given`, `renderPath_of_lacks` -- rendering fills in a reading, or tells what it lacks;
* `Runs` -- the loop that fills in one placeholder after the other, `exists_runs` -- which ends,
  `Runs.result_eq` -- with the rendered path;
* `renderPath_substitutes` -- so rendering a path is substitution for the names in it.
-/

namespace BoxOffice.Client

open BoxOffice.Text

/-! ## 1. Readings of a template -/

/-- No brace that is opened in the text is closed in it. -/
def Unclosed (cs : List Char) : Prop := ∀ before after, cs = before ++ '{' :: after → '}' ∉ after

/-- **A template as it is read.** -/
inductive Reading where
  | tail (text : String) (unclosed : Unclosed text.toList)
  /-- a text without an opening brace -/
  | literal (text : String) (plain : '{' ∉ text.toList) (rest : Reading)
  /-- a name in braces, which ends at the first closing one -/
  | placeholder (name : String) (closed : '}' ∉ name.toList) (rest : Reading)

namespace Reading

/-- The template that is read. -/
def text : Reading → String
  | tail text _ => text
  | literal text _ rest => text ++ rest.text
  | placeholder name _ rest => r"{" ++ name ++ r"}" ++ rest.text

/-- The names in braces, from left to right. -/
def names : Reading → List String
  | tail _ _ => []
  | literal _ _ rest => rest.names
  | placeholder name _ rest => name :: rest.names

/-- **The template with values for its names**; all else is copied. -/
def filled (value : String → String) : Reading → String
  | tail text _ => text
  | literal text _ rest => text ++ rest.filled value
  | placeholder name _ rest => value name ++ rest.filled value

/-- **The leftmost name without an argument.** -/
def Lacks (R : Reading) (arguments : List (String × String)) (name : String) : Prop :=
  ∃ before after, R.names = before ++ name :: after ∧
    (∀ other ∈ before, other ∈ arguments.map (·.1)) ∧ name ∉ arguments.map (·.1)

theorem toList_text_literal (text : String) (plain : '{' ∉ text.toList) (rest : Reading) :
    (literal text plain rest).text.toList = text.toList ++ rest.text.toList :=
  String.toList_append

theorem toList_text_placeholder (name : String) (closed : '}' ∉ name.toList) (rest : Reading) :
    (placeholder name closed rest).text.toList = '{' :: (name.toList ++ '}' :: rest.text.toList) := by
  rw [text, String.toList_append, String.toList_append, String.toList_append, List.append_assoc]
  rfl

end Reading

/-! ## 2. The first placeholder of a text -/

/-- A text without an opening brace stays in front of the first placeholder. -/
theorem placeholder?_literal {text : List Char} (plain : '{' ∉ text) (cs : List Char) :
    placeholder? (text ++ cs) = (placeholder? cs).map fun (before, name, after) => (text ++ before, name, after) := by
  rw [placeholder?, placeholder?, cutAt_append_of_not_mem plain]
  rcases cutAt '{' cs with ⟨before, _ | after⟩
  · rfl
  · dsimp only
    rcases cutAt '}' after with ⟨name, _ | after⟩ <;> rfl

/-- A name in braces is a placeholder. -/
theorem placeholder?_append {before : List Char} (plain : '{' ∉ before) {name : String}
    (closed : '}' ∉ name.toList) (after : List Char) :
    placeholder? (before ++ '{' :: (name.toList ++ '}' :: after)) = some (before, name, after) := by
  simp only [placeholder?, cutAt_append _ plain, cutAt_append _ closed, String.ofList_toList]

/-- Where no brace is closed, there is no placeholder. -/
theorem placeholder?_of_unclosed {cs : List Char} (unclosed : Unclosed cs) : placeholder? cs = none := by
  by_cases opened : '{' ∈ cs
  · obtain ⟨before, after, whole, plain⟩ := List.eq_append_cons_of_mem opened
    have never : '}' ∉ after := unclosed before after whole
    simp only [whole, placeholder?, cutAt_append _ plain, cutAt_of_not_mem never]
  · simp only [placeholder?, cutAt_of_not_mem opened]

theorem placeholder?_placeholder (name : String) (closed : '}' ∉ name.toList) (rest : Reading) :
    placeholder? (Reading.placeholder name closed rest).text.toList = some ([], name, rest.text.toList) := by
  rw [Reading.toList_text_placeholder]
  exact placeholder?_append List.not_mem_nil closed _

/-! ## 3. Every template has a reading -/

/-- What follows any opening brace follows the first one. -/
theorem suffix_of_first {before after before' after' : List Char} (plain : '{' ∉ before)
    (same : before ++ '{' :: after = before' ++ '{' :: after') : after' <:+ after := by
  rcases List.append_eq_append_iff.mp same with ⟨more, _, rest⟩ | ⟨more, rfl, rest⟩
  · cases more with
    | nil =>
      cases rest
      exact List.suffix_rfl
    | cons c more =>
      rw [List.cons_append] at rest
      cases rest
      exact ⟨more ++ ['{'], by rw [List.append_assoc, List.singleton_append]⟩
  · cases more with
    | nil =>
      cases rest
      exact List.suffix_rfl
    | cons c more =>
      cases rest
      exact absurd (List.mem_append_right before' List.mem_cons_self) plain

/-- **In a text no brace is closed, or there is a first placeholder.** -/
theorem unclosed_or_placeholder (cs : List Char) :
    Unclosed cs ∨ ∃ before name after, '{' ∉ before ∧ '}' ∉ name ∧ cs = before ++ '{' :: (name ++ '}' :: after) := by
  by_cases opened : '{' ∈ cs
  · obtain ⟨before, after, rfl, plain⟩ := List.eq_append_cons_of_mem opened
    by_cases closes : '}' ∈ after
    · obtain ⟨name, after, rfl, closed⟩ := List.eq_append_cons_of_mem closes
      exact Or.inr ⟨before, name, after, plain, closed, rfl⟩
    · exact Or.inl fun _ _ same mem => closes ((suffix_of_first plain same).mem mem)
  · refine Or.inl fun before after whole => absurd ?_ opened
    rw [whole]
    exact List.mem_append_right before List.mem_cons_self

theorem exists_reading_of_chars (cs : List Char) : ∃ R : Reading, R.text.toList = cs := by
  rcases unclosed_or_placeholder cs with unclosed | ⟨before, name, after, plain, closed, whole⟩
  · exact ⟨.tail (.ofList cs) (by rwa [String.toList_ofList]), String.toList_ofList⟩
  · have shorter : after.length < cs.length := by
      rw [whole]
      simp only [List.length_append, List.length_cons]
      omega
    obtain ⟨rest, read⟩ := exists_reading_of_chars after
    rw [← String.toList_ofList (l := before)] at plain whole
    rw [← String.toList_ofList (l := name)] at closed whole
    refine ⟨.literal _ plain (.placeholder _ closed rest), ?_⟩
    rw [Reading.toList_text_literal, Reading.toList_text_placeholder, read, whole]
termination_by cs.length

/-- **Every template has a reading.** -/
theorem exists_reading (template : String) : ∃ R : Reading, R.text = template := by
  obtain ⟨R, read⟩ := exists_reading_of_chars template.toList
  exact ⟨R, String.toList_inj.mp read⟩

/-! ## 4. Rendering fills in a reading -/

section Render

variable {arguments : List (String × String)}

/-- A name has no argument exactly if it is none of their names. -/
theorem lookup_eq_none_iff (name : String) : arguments.lookup name = none ↔ name ∉ arguments.map (·.1) := by
  simp only [List.lookup_eq_none_iff, List.mem_map, bne_iff_ne, not_exists, not_and]
  exact forall₂_congr fun _ _ => ne_comm

theorem exists_lookup_of_mem {name : String} (mem : name ∈ arguments.map (·.1)) :
    ∃ value, arguments.lookup name = some value :=
  Option.ne_none_iff_exists'.mp fun none => (lookup_eq_none_iff name).mp none mem

/-- One round of rendering. -/
theorem renderChars_eq (arguments : List (String × String)) (cs : List Char) : renderChars arguments cs =
    match placeholder? cs with
    | none => .ok cs
    | some (before, name, rest) =>
      match arguments.lookup name with
      | none => .error name
      | some value => (renderChars arguments rest).map (before ++ value.toList ++ ·) := by
  rw [renderChars]
  split
  · next plain => rw [plain]
  · next before name rest found =>
    cases given : arguments.lookup name <;> simp only [found, given]

/-- A template without placeholders is its own text. -/
theorem renderChars_of_none (arguments : List (String × String)) {cs : List Char}
    (h : placeholder? cs = none) : renderChars arguments cs = .ok cs := by
  rw [renderChars_eq, h]

/-- A placeholder becomes its argument. -/
theorem renderChars_of_some {cs before rest : List Char} {name value : String}
    (h : placeholder? cs = some (before, name, rest)) (given : arguments.lookup name = some value) :
    renderChars arguments cs = (renderChars arguments rest).map (before ++ value.toList ++ ·) := by
  rw [renderChars_eq, h]
  simp only [given]

/-- Without its argument a placeholder is told of. -/
theorem renderChars_of_missing {cs before rest : List Char} {name : String}
    (h : placeholder? cs = some (before, name, rest)) (missing : arguments.lookup name = none) :
    renderChars arguments cs = .error name := by
  rw [renderChars_eq, h]
  simp only [missing]

/-- A text without an opening brace is copied. -/
theorem renderChars_literal {text : List Char} (plain : '{' ∉ text) (cs : List Char) :
    renderChars arguments (text ++ cs) = (renderChars arguments cs).map (text ++ ·) := by
  have first := placeholder?_literal plain cs
  cases found : placeholder? cs with
  | none =>
    rw [found] at first
    rw [renderChars_of_none _ first, renderChars_of_none _ found]
    rfl
  | some part =>
    obtain ⟨before, name, after⟩ := part
    rw [found] at first
    cases given : arguments.lookup name with
    | none =>
      rw [renderChars_of_missing first given, renderChars_of_missing found given]
      rfl
    | some value =>
      rw [renderChars_of_some first given, renderChars_of_some found given]
      cases renderChars arguments after with
      | error => rfl
      | ok cs => simp only [Except.map, List.append_assoc]

/-- **With an argument for every name, rendering fills it in.** -/
theorem renderChars_of_given {value : String → String} {R : Reading}
    (given : ∀ name ∈ R.names, arguments.lookup name = some (value name)) :
    renderChars arguments R.text.toList = .ok (R.filled value).toList := by
  induction R with
  | tail text unclosed => exact renderChars_of_none _ (placeholder?_of_unclosed unclosed)
  | literal text plain rest ih =>
    rw [Reading.toList_text_literal, renderChars_literal plain, ih given, Reading.filled, String.toList_append]
    rfl
  | placeholder name closed rest ih =>
    have first := placeholder?_placeholder name closed rest
    have others := ih fun other mem => given other (List.mem_cons_of_mem name mem)
    rw [renderChars_of_some first (given name List.mem_cons_self), others, Reading.filled, String.toList_append]
    rfl

/-- **Otherwise it tells the leftmost name without one.** -/
theorem renderChars_of_lacks {R : Reading} {name : String} (lacks : R.Lacks arguments name) :
    renderChars arguments R.text.toList = .error name := by
  obtain ⟨before, after, names, given, missing⟩ := lacks
  induction R generalizing before with
  | tail text unclosed => exact absurd names.symm (List.append_ne_nil_of_right_ne_nil _ (List.cons_ne_nil _ _))
  | literal text plain rest ih =>
    rw [Reading.toList_text_literal, renderChars_literal plain, ih before names given]
    rfl
  | placeholder first closed rest ih =>
    have found := placeholder?_placeholder first closed rest
    cases before with
    | nil =>
      obtain ⟨rfl, _⟩ := List.cons.inj names
      exact renderChars_of_missing found ((lookup_eq_none_iff _).mpr missing)
    | cons other before =>
      obtain ⟨rfl, others⟩ := List.cons.inj names
      obtain ⟨value, filled⟩ := exists_lookup_of_mem (given _ List.mem_cons_self)
      have later := ih before others fun other mem => given other (List.mem_cons_of_mem _ mem)
      rw [renderChars_of_some found filled, later]
      rfl

/-- Every name has an argument, or one of them is the leftmost without. -/
theorem Reading.given_or_lacks (R : Reading) (arguments : List (String × String)) :
    (∀ name ∈ R.names, name ∈ arguments.map (·.1)) ∨ ∃ name, R.Lacks arguments name := by
  cases found : R.names.find? fun name => decide (name ∉ arguments.map (·.1)) with
  | none =>
    rw [List.find?_eq_none] at found
    exact Or.inl fun name mem => by simpa using found name mem
  | some name =>
    obtain ⟨missing, before, after, names, given⟩ := List.find?_eq_some_iff_append.mp found
    exact Or.inr ⟨name, before, after, names, fun other mem => by simpa using given other mem,
      of_decide_eq_true missing⟩

/-- **With an argument for every name, a path is rendered by filling in the first one of each name.** -/
theorem renderPath_of_given {value : String → String} {R : Reading}
    (given : ∀ name ∈ R.names, arguments.lookup name = some (value name)) :
    renderPath R.text arguments = .ok (R.filled value) := by
  rw [renderPath, renderChars_of_given given]
  exact congrArg Except.ok String.ofList_toList

/-- **Otherwise the failure tells the leftmost name without one.** -/
theorem renderPath_of_lacks {R : Reading} {name : String} (lacks : R.Lacks arguments name) :
    renderPath R.text arguments = .error (.missingArgument name) := by
  rw [renderPath, renderChars_of_lacks lacks]

/-- There are values for names that all have an argument. -/
theorem exists_values {R : Reading} (given : ∀ name ∈ R.names, name ∈ arguments.map (·.1)) :
    ∃ value : String → String, ∀ name ∈ R.names, arguments.lookup name = some (value name) := by
  refine ⟨fun name => (arguments.lookup name).getD "", fun name mem => ?_⟩
  obtain ⟨value, first⟩ := exists_lookup_of_mem (given name mem)
  simp only [first, Option.getD_some]

/-- A leftmost name is a name, and has no argument. -/
theorem Reading.Lacks.exists_missing {R : Reading} {name : String} (lacks : R.Lacks arguments name) :
    ∃ name ∈ R.names, name ∉ arguments.map (·.1) := by
  obtain ⟨before, after, names, _, missing⟩ := lacks
  exact ⟨name, names ▸ List.mem_append_right before List.mem_cons_self, missing⟩

/-- **What a path is rendered to depends on the first argument of each name in the template.** -/
theorem renderChars_congr {arguments' : List (String × String)} {R : Reading}
    (same : ∀ name ∈ R.names, arguments.lookup name = arguments'.lookup name) :
    renderChars arguments R.text.toList = renderChars arguments' R.text.toList := by
  induction R with
  | tail text unclosed =>
    have plain := placeholder?_of_unclosed unclosed
    rw [Reading.text, renderChars_of_none _ plain, renderChars_of_none _ plain]
  | literal text plain rest ih =>
    rw [Reading.toList_text_literal, renderChars_literal plain, renderChars_literal plain, ih same]
  | placeholder name closed rest ih =>
    have found := placeholder?_placeholder name closed rest
    have first := same name List.mem_cons_self
    have others := ih fun other mem => same other (List.mem_cons_of_mem name mem)
    cases given : arguments.lookup name with
    | none => rw [renderChars_of_missing found given, renderChars_of_missing found (first.symm.trans given)]
    | some value =>
      rw [renderChars_of_some found given, renderChars_of_some found (first.symm.trans given), others]

/-- **An argument has no effect if its name is not in the template, or has an earlier argument.** -/
theorem renderPath_unused {R : Reading} {earlier later : List (String × String)} {name value : String}
    (unused : name ∉ R.names ∨ name ∈ earlier.map (·.1)) :
    renderPath R.text (earlier ++ (name, value) :: later) = renderPath R.text (earlier ++ later) := by
  have same : ∀ other ∈ R.names,
      (earlier ++ (name, value) :: later).lookup other = (earlier ++ later).lookup other := by
    intro other mem
    rw [List.lookup_append, List.lookup_append]
    by_cases this : other = name
    · subst this
      rcases unused with unused | given
      · exact absurd mem unused
      · obtain ⟨first, found⟩ := exists_lookup_of_mem given
        rw [found, Option.some_or, Option.some_or]
    · rw [List.lookup_cons, beq_false_of_ne this]
  rw [renderPath, renderPath, renderChars_congr same]

end Render

/-! ## 5. The loop that renders a path -/

/-- **The loop**: what it has written, what it has still to read, how many placeholders it fills in from there on,
    and what it results in. -/
inductive Runs (arguments : List (String × String)) :
    List Char → List Char → Nat → Except Failure String → Prop where
  /-- without a placeholder the rest is copied, and the loop ends -/
  | copied {written rest : List Char} : placeholder? rest = none →
      Runs arguments written rest 0 (.ok (String.ofList (written ++ rest)))
  /-- a placeholder without an argument ends the loop -/
  | missing {written rest before after : List Char} {name : String} :
      placeholder? rest = some (before, name, after) → arguments.lookup name = none →
      Runs arguments written rest 0 (.error (.missingArgument name))
  /-- after any other one the loop goes on -/
  | filled {written rest before after : List Char} {name value : String} {rounds : Nat}
      {result : Except Failure String} :
      placeholder? rest = some (before, name, after) → arguments.lookup name = some value →
      Runs arguments (written ++ (before ++ value.toList)) after rounds result →
      Runs arguments written rest (rounds + 1) result

section Runs

variable {arguments : List (String × String)}

/-- The result of a loop that has written something and renders the rest to what is given. -/
def resultAfter (written : List Char) : Except String (List Char) → Except Failure String
  | .ok cs => .ok (String.ofList (written ++ cs))
  | .error name => .error (.missingArgument name)

theorem resultAfter_map (written before : List Char) (rest : Except String (List Char)) :
    resultAfter written (rest.map (before ++ ·)) = resultAfter (written ++ before) rest := by
  cases rest with
  | error => rfl
  | ok cs => simp only [Except.map, resultAfter, List.append_assoc]

theorem renderPath_eq_resultAfter (template : String) (arguments : List (String × String)) :
    renderPath template arguments = resultAfter [] (renderChars arguments template.toList) := by
  rw [renderPath]
  cases renderChars arguments template.toList <;> rfl

/-- **The loop results in what the rest is rendered to**, after what it has written. -/
theorem Runs.result_eq {written rest : List Char} {rounds : Nat} {result : Except Failure String}
    (h : Runs arguments written rest rounds result) : result = resultAfter written (renderChars arguments rest) := by
  induction h with
  | copied plain => rw [renderChars_of_none _ plain]; rfl
  | missing found absent => rw [renderChars_of_missing found absent]; rfl
  | filled found given _ ih => rw [renderChars_of_some found given, resultAfter_map, ih]

/-- A text without an opening brace is written when the next placeholder is filled in. -/
theorem Runs.literal {text : List Char} (plain : '{' ∉ text) {written rest : List Char} {rounds : Nat}
    {result : Except Failure String} (h : Runs arguments (written ++ text) rest rounds result) :
    Runs arguments written (text ++ rest) rounds result := by
  have first := placeholder?_literal plain rest
  cases h with
  | copied last =>
    rw [last] at first
    rw [List.append_assoc]
    exact .copied first
  | missing found absent =>
    rw [found] at first
    exact .missing first absent
  | filled found given goes_on =>
    rw [found] at first
    rw [List.append_assoc, ← List.append_assoc text] at goes_on
    exact .filled first given goes_on

/-- **The loop ends**, after at most one round for each placeholder. -/
theorem exists_runs (R : Reading) (arguments : List (String × String)) (written : List Char) :
    ∃ rounds ≤ R.names.length, ∃ result, Runs arguments written R.text.toList rounds result := by
  induction R generalizing written with
  | tail text unclosed => exact ⟨0, Nat.le_refl 0, _, .copied (placeholder?_of_unclosed unclosed)⟩
  | literal text plain rest ih =>
    obtain ⟨rounds, few, result, runs⟩ := ih (written ++ text.toList)
    rw [Reading.toList_text_literal]
    exact ⟨rounds, few, result, runs.literal plain⟩
  | placeholder name closed rest ih =>
    have found := placeholder?_placeholder name closed rest
    cases given : arguments.lookup name with
    | none => exact ⟨0, Nat.zero_le _, _, .missing found given⟩
    | some value =>
      obtain ⟨rounds, few, result, runs⟩ := ih (written ++ ([] ++ value.toList))
      exact ⟨rounds + 1, Nat.succ_le_succ few, result, .filled found given runs⟩

end Runs

/-! ## 6. Substitution -/

/-- **The result is the template with its names substituted.** -/
structure Reading.Substituted (R : Reading) (arguments : List (String × String))
    (result : Except Failure String) : Prop where
  /-- if every name has an argument, the first one of its name is put in for it, and all else is copied -/
  filled : (∀ name ∈ R.names, name ∈ arguments.map (·.1)) →
    ∃ value, (∀ name ∈ R.names, arguments.lookup name = some (value name)) ∧ result = .ok (R.filled value)
  /-- a failure tells the leftmost name without an argument -/
  lacks : ∀ name, result = .error (.missingArgument name) ↔ R.Lacks arguments name
  /-- there is a failure if, and only if, a name has no argument -/
  fails : (∃ failure, result = .error failure) ↔ ∃ name ∈ R.names, name ∉ arguments.map (·.1)

theorem renderPath_substituted (R : Reading) (arguments : List (String × String)) :
    R.Substituted arguments (renderPath R.text arguments) := by
  rcases R.given_or_lacks arguments with given | ⟨missing, lacks⟩
  · obtain ⟨value, first⟩ := exists_values given
    have rendered := renderPath_of_given first
    have never : ∀ failure, renderPath R.text arguments ≠ .error failure := by
      intro failure same
      rw [rendered] at same
      cases same
    have all : ¬ ∃ name ∈ R.names, name ∉ arguments.map (·.1) := fun ⟨name, mem, absent⟩ => absent (given name mem)
    exact
      { filled := fun _ => ⟨value, first, rendered⟩
        lacks := fun name => ⟨fun same => absurd same (never _), fun lacks => absurd lacks.exists_missing all⟩
        fails := ⟨fun ⟨failure, same⟩ => absurd same (never failure), fun missing => absurd missing all⟩ }
  · have told := renderPath_of_lacks lacks
    obtain ⟨other, mem, absent⟩ := lacks.exists_missing
    constructor
    case filled => exact fun given => absurd (given other mem) absent
    case lacks =>
      intro name
      refine ⟨fun same => ?_, renderPath_of_lacks⟩
      rw [told] at same
      cases same
      exact lacks
    case fails => exact ⟨fun _ => lacks.exists_missing, fun _ => ⟨_, told⟩⟩

/-- **Rendering a path is substitution for the names in its template**, whatever the template and the arguments.

    Every template has a reading. In any reading of it, each name becomes its first argument, as it is, and all
    else is copied, or the failure tells the leftmost name without an argument. An argument that is not used, or
    that comes after one of its name, has no effect. The loop that fills in one placeholder after the other ends,
    with this result. -/
theorem renderPath_substitutes :
    (∀ template : String, ∃ R : Reading, R.text = template) ∧
    ∀ (R : Reading) (arguments : List (String × String)),
      R.Substituted arguments (renderPath R.text arguments) ∧
      (∀ (earlier later : List (String × String)) (name value : String),
        arguments = earlier ++ (name, value) :: later → name ∉ R.names ∨ name ∈ earlier.map (·.1) →
        renderPath R.text arguments = renderPath R.text (earlier ++ later)) ∧
      (∃ rounds ≤ R.names.length, Runs arguments [] R.text.toList rounds (renderPath R.text arguments)) ∧
      ∀ rounds result, Runs arguments [] R.text.toList rounds result → result = renderPath R.text arguments := by
  refine ⟨exists_reading, fun R arguments => ⟨renderPath_substituted R arguments, ?_, ?_, ?_⟩⟩
  · rintro earlier later name value rfl unused
    exact renderPath_unused unused
  · obtain ⟨rounds, few, result, runs⟩ := exists_runs R arguments []
    rw [renderPath_eq_resultAfter, ← runs.result_eq]
    exact ⟨rounds, few, runs⟩
  · intro rounds result runs
    rw [renderPath_eq_resultAfter]
    exact runs.result_eq

/-- A value with braces is put in as it is. -/
example : renderPath "{showId}/seats/{seatId}" [("seatId", "12"), ("showId", "{seatId}")] =
    .ok "{seatId}/seats/12" := by decide +kernel

end BoxOffice.Client
