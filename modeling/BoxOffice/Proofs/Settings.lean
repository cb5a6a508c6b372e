import BoxOffice.Client.Settings
import BoxOffice.Proofs.Number.Digits
import BoxOffice.Proofs.Text.Trim

/-!
# Which settings are loaded

* `IsUnset`, `Holds` -- a variable that counts as unset, and one that holds a text: `nonBlank?_eq_none_iff`,
  `nonBlank?_eq_some_iff`;
* `IsTimeout` -- the texts that are a number of milliseconds; `readTimeout_eq_ok_iff`, `readTimeout_eq_error_iff` -- these
  are read, and any other text is refused as it stands;
* `load_eq_error_iff`, `load_eq_ok_iff` -- when there is which fault, and which settings there are otherwise;
* `isTimeout_printed`, `exists_load_printed` -- a printed number is a timeout, whatever white space stands around it, and
  is loaded;
* `settings_loaded` -- all of it for every look-up.
-/

namespace BoxOffice.Client.Settings

open BoxOffice.Text
open BoxOffice.Number

variable {lookup : String → Option String} {name text : String}

/-! ## 1. Variables -/

/-- **The variable counts as unset**: it is not set, or set to white space only. -/
def IsUnset (lookup : String → Option String) (name : String) : Prop :=
  lookup name = none ∨ ∃ text, lookup name = some text ∧ ∀ c ∈ text.toList, isBlank c = true

/-- **The variable is set to the text**, and that is not white space only. -/
def Holds (lookup : String → Option String) (name text : String) : Prop :=
  lookup name = some text ∧ ∃ c ∈ text.toList, isBlank c = false

theorem nonBlank?_eq_none_iff : nonBlank? lookup name = none ↔ IsUnset lookup name := by
  rw [nonBlank?, Option.filter_eq_none_iff, IsUnset]
  cases lookup name with
  | none => simp
  | some text => simp [isAllBlank_iff]

theorem nonBlank?_eq_some_iff : nonBlank? lookup name = some text ↔ Holds lookup name text := by
  rw [nonBlank?, Option.filter_eq_some_iff, not_isAllBlank_iff, Holds]

/-- **What a variable holds**, if it does not count as unset. -/
theorem nonBlank?_eq_iff {o : Option String} : nonBlank? lookup name = o ↔
    IsUnset lookup name ∧ o = none ∨ ∃ text, Holds lookup name text ∧ o = some text := by
  simp only [← nonBlank?_eq_none_iff, ← nonBlank?_eq_some_iff]
  cases nonBlank? lookup name <;> simp [eq_comm]

theorem Holds.not_isUnset (h : Holds lookup name text) : ¬ IsUnset lookup name := by
  rw [← nonBlank?_eq_none_iff, nonBlank?_eq_some_iff.mpr h]
  exact Option.some_ne_none text

theorem Holds.unique {other : String} (h : Holds lookup name text) (h' : Holds lookup name other) : text = other :=
  Option.some.inj (h.1.symm.trans h'.1)

/-- A variable counts as unset, or it holds a text. -/
theorem isUnset_or_holds (lookup : String → Option String) (name : String) :
    IsUnset lookup name ∨ ∃ text, Holds lookup name text := by
  cases found : nonBlank? lookup name with
  | none => exact Or.inl (nonBlank?_eq_none_iff.mp found)
  | some text => exact Or.inr ⟨text, nonBlank?_eq_some_iff.mp found⟩

/-! ## 2. Timeouts -/

/-- **The text is a number of milliseconds**: without the white space around it, it writes the number, and that fits
    in 64 bits. -/
def IsTimeout (text : String) (ms : Nat) : Prop :=
  ms < UInt64.size ∧ ∃ core, IsCore isBlank text.toList core ∧ Writes core ms

/-- What is read of a text, white space aside, is the timeout that it is. -/
theorem read_trimBlank_eq_ok_iff {k : Int} :
    Bounds.uint64.read (trimBlank text) = .ok k ↔ ∃ ms : Nat, k = ms ∧ IsTimeout text ms := by
  have size : UInt64.size = Bounds.uint64.up + 1 := rfl
  rw [read_eq_ok_iff rfl]
  constructor
  · rintro ⟨ms, rfl, le, written⟩
    exact ⟨ms, rfl, by omega, trimBlank text, isCore_trimBoth isBlank _, written⟩
  · rintro ⟨ms, rfl, small, core, isCore, written⟩
    have trimmed : trimBlank text = core := trimBoth_eq_iff.mpr isCore
    exact ⟨ms, rfl, by omega, trimmed ▸ written⟩

/-- A timeout is not only white space. -/
theorem IsTimeout.exists_char {ms : Nat} (h : IsTimeout text ms) : ∃ c ∈ text.toList, isBlank c = false := by
  obtain ⟨_, core, isCore, written⟩ := h
  have trimmed : trimBlank text = core := trimBoth_eq_iff.mpr isCore
  rw [← not_isAllBlank_iff, Bool.not_eq_true', ← Bool.not_eq_true, ← trimBlank_eq_nil_iff, trimmed]
  exact written.ne_nil

theorem readTimeout_eq_ok_iff {ms : Nat} : readTimeout text = .ok ms ↔ IsTimeout text ms := by
  rw [readTimeout]
  cases number : Bounds.uint64.read (trimBlank text) with
  | error fault =>
    refine ⟨nofun, fun timeout => ?_⟩
    cases number.symm.trans (read_trimBlank_eq_ok_iff.mpr ⟨ms, rfl, timeout⟩)
  | ok k =>
    obtain ⟨n, rfl, timeout⟩ := read_trimBlank_eq_ok_iff.mp number
    constructor
    · intro same
      cases same
      exact timeout
    · intro other
      cases number.symm.trans (read_trimBlank_eq_ok_iff.mpr ⟨ms, rfl, other⟩)
      rfl

/-- **Any other text is refused as it stands**, with the white space around it. -/
theorem readTimeout_eq_error_iff {fault : SettingsFault} : readTimeout text = .error fault ↔
    fault = .invalid timeoutVariable "an integer number of milliseconds" text ∧ ∀ ms, ¬ IsTimeout text ms := by
  simp only [← readTimeout_eq_ok_iff]
  rw [readTimeout]
  cases Bounds.uint64.read (trimBlank text) with
  | error _ => exact ⟨fun same => ⟨by cases same; rfl, nofun⟩, fun ⟨same, _⟩ => by rw [same]⟩
  | ok k => exact ⟨nofun, fun ⟨_, other⟩ => absurd rfl (other k.toNat)⟩

/-! ## 3. Settings -/

/-- The timeout of the settings. -/
def timeoutOf (lookup : String → Option String) : Except SettingsFault Nat :=
  match nonBlank? lookup timeoutVariable with
  | none => .ok defaultTimeout
  | some raw => readTimeout raw

theorem timeoutOf_eq_ok_iff {ms : Nat} : timeoutOf lookup = .ok ms ↔
    IsUnset lookup timeoutVariable ∧ ms = 10000 ∨ ∃ raw, Holds lookup timeoutVariable raw ∧ IsTimeout raw ms := by
  simp only [timeoutOf, ← nonBlank?_eq_none_iff, ← nonBlank?_eq_some_iff, ← readTimeout_eq_ok_iff]
  cases nonBlank? lookup timeoutVariable with
  | none => simp [defaultTimeout, eq_comm]
  | some raw => simp

theorem timeoutOf_eq_error_iff {fault : SettingsFault} : timeoutOf lookup = .error fault ↔
    ∃ raw, Holds lookup timeoutVariable raw ∧ (∀ ms, ¬ IsTimeout raw ms) ∧
      fault = .invalid timeoutVariable "an integer number of milliseconds" raw := by
  simp only [timeoutOf, ← nonBlank?_eq_some_iff]
  cases nonBlank? lookup timeoutVariable with
  | none => simp
  | some raw => simp [readTimeout_eq_error_iff, and_comm]

theorem load_of_isUnset (unset : IsUnset lookup baseUrlVariable) :
    load lookup = .error (.missing baseUrlVariable) := by
  rw [load, nonBlank?_eq_none_iff.mpr unset]

theorem load_of_holds {baseUrl : String} (base : Holds lookup baseUrlVariable baseUrl) :
    load lookup = (timeoutOf lookup).map fun ms => ⟨baseUrl, nonBlank? lookup tokenVariable, ms⟩ := by
  rw [load, nonBlank?_eq_some_iff.mpr base, timeoutOf]
  cases nonBlank? lookup timeoutVariable <;> rfl

/-- **The faults**: there is no base URL, or else no timeout can be read. -/
theorem load_eq_error_iff {fault : SettingsFault} : load lookup = .error fault ↔
    IsUnset lookup baseUrlVariable ∧ fault = .missing baseUrlVariable ∨
    ¬ IsUnset lookup baseUrlVariable ∧ ∃ raw, Holds lookup timeoutVariable raw ∧ (∀ ms, ¬ IsTimeout raw ms) ∧
      fault = .invalid timeoutVariable "an integer number of milliseconds" raw := by
  rw [← timeoutOf_eq_error_iff]
  obtain unset | ⟨baseUrl, base⟩ := isUnset_or_holds lookup baseUrlVariable
  · simp [load_of_isUnset unset, unset, eq_comm]
  · -- with a base URL, only the timeout can fail
    rw [load_of_holds base]
    have set := base.not_isUnset
    cases timeoutOf lookup <;> simp [set, Except.map]

theorem load_eq_missing_iff : load lookup = .error (.missing name) ↔
    name = baseUrlVariable ∧ IsUnset lookup baseUrlVariable := by
  rw [load_eq_error_iff]
  constructor
  · rintro (⟨unset, same⟩ | ⟨_, raw, _, _, same⟩)
    · cases same
      exact ⟨rfl, unset⟩
    · cases same
  · rintro ⟨rfl, unset⟩
    exact Or.inl ⟨unset, rfl⟩

theorem load_eq_invalid_iff {expected : String} : load lookup = .error (.invalid name expected text) ↔
    ¬ IsUnset lookup baseUrlVariable ∧ name = timeoutVariable ∧ expected = "an integer number of milliseconds" ∧
      Holds lookup timeoutVariable text ∧ ∀ ms, ¬ IsTimeout text ms := by
  rw [load_eq_error_iff]
  constructor
  · rintro (⟨_, same⟩ | ⟨set, raw, holds, other, same⟩)
    · cases same
    · cases same
      exact ⟨set, rfl, rfl, holds, other⟩
  · rintro ⟨set, rfl, rfl, holds, other⟩
    exact Or.inr ⟨set, text, holds, other, rfl⟩

/-- **The settings**, if there is no fault. -/
theorem load_eq_ok_iff {s : Settings} : load lookup = .ok s ↔
    Holds lookup baseUrlVariable s.baseUrl ∧
    (IsUnset lookup tokenVariable ∧ s.token = none ∨
      ∃ token, Holds lookup tokenVariable token ∧ s.token = some token) ∧
    (IsUnset lookup timeoutVariable ∧ s.timeout = 10000 ∨
      ∃ raw, Holds lookup timeoutVariable raw ∧ IsTimeout raw s.timeout) := by
  rw [← nonBlank?_eq_iff, ← timeoutOf_eq_ok_iff]
  obtain unset | ⟨baseUrl, base⟩ := isUnset_or_holds lookup baseUrlVariable
  · rw [load_of_isUnset unset]
    exact ⟨nofun, fun ⟨base, _⟩ => absurd unset base.not_isUnset⟩
  · rw [load_of_holds base]
    cases timeoutOf lookup with
    | error fault => exact ⟨nofun, nofun⟩
    | ok ms =>
      constructor
      · intro same
        cases same
        exact ⟨base, rfl, rfl⟩
      · rintro ⟨base', token, same⟩
        cases same
        rw [token, base.unique base']
        rfl

/-! ## 4. Printed timeouts -/

/-- A digit is no white space. -/
theorem isBlank_eq_false_of_isDigit {c : Char} (digit : c.isDigit = true) : isBlank c = false := by
  have apart : ∀ r ∈ blankRanges, r.2 < '0'.toNat ∨ '9'.toNat < r.1 := by decide
  obtain ⟨low, high⟩ := toNat_of_isDigit digit
  rw [isBlank, inRanges, List.any_eq_false]
  intro r mem inside
  rw [Bool.and_eq_true, decide_eq_true_eq, decide_eq_true_eq] at inside
  have side := apart r mem
  omega

/-- **A printed number is a timeout**, with zeros before it or none, and with white space around it or none. -/
theorem isTimeout_printed (ms : UInt64) (zeros : Nat) {front back : String}
    (blank : ∀ c ∈ front.toList ++ back.toList, isBlank c = true) :
    IsTimeout (front ++ String.ofList (List.replicate zeros '0' ++ natDigits ms.toNat) ++ back) ms.toNat := by
  have digit : ∀ c ∈ List.replicate zeros '0' ++ natDigits ms.toNat, isBlank c = false :=
    fun c mem => isBlank_eq_false_of_isDigit (isDigit_of_mem_zeros mem)
  refine ⟨ms.toNat_lt, _, ⟨⟨front.toList, back.toList, ?_, ?_, ?_⟩, ?_, ?_⟩, writes_natDigits ms.toNat zeros⟩
  · rw [String.toList_append, String.toList_append, String.toList_ofList]
  · exact fun c mem => blank c (List.mem_append_left _ mem)
  · exact fun c mem => blank c (List.mem_append_right _ mem)
  · exact fun c first => digit c (List.mem_of_head? first)
  · exact fun c last => digit c (List.mem_of_getLast? last)

theorem exists_load_printed (ms : UInt64) (zeros : Nat) {front back : String}
    (blank : ∀ c ∈ front.toList ++ back.toList, isBlank c = true)
    (found : lookup timeoutVariable =
      some (front ++ String.ofList (List.replicate zeros '0' ++ natDigits ms.toNat) ++ back))
    (set : ¬ IsUnset lookup baseUrlVariable) : ∃ s, load lookup = .ok s ∧ s.timeout = ms.toNat := by
  have timeout := isTimeout_printed ms zeros blank
  obtain ⟨baseUrl, base⟩ := (isUnset_or_holds lookup baseUrlVariable).resolve_left set
  refine ⟨⟨baseUrl, nonBlank? lookup tokenVariable, ms.toNat⟩, load_eq_ok_iff.mpr ⟨base, ?_, ?_⟩, rfl⟩
  · exact nonBlank?_eq_iff.mp rfl
  · exact Or.inr ⟨_, ⟨found, timeout.exists_char⟩, timeout⟩

/-! ## 5. What is loaded -/

/-- **What the settings are**, whatever the variables hold.

    The fault is the missing base URL exactly if that variable counts as unset, whatever the others hold. Otherwise it
    is the timeout exactly if that variable holds a text that is no number of milliseconds, and the fault has the text
    as it stands. Otherwise there are settings, with base URL and token as they stand, no token if that variable
    counts as unset, and the milliseconds of the timeout, or 10000 if that variable counts as unset. So every number
    of 64 bits is loaded as it was printed. -/
theorem settings_loaded (lookup : String → Option String) :
    (∀ name, load lookup = .error (.missing name) ↔
      name = "TICKETLINE_BASE_URL" ∧ IsUnset lookup "TICKETLINE_BASE_URL") ∧
    (∀ name expected value, load lookup = .error (.invalid name expected value) ↔
      ¬ IsUnset lookup "TICKETLINE_BASE_URL" ∧
      name = "TICKETLINE_TIMEOUT_MS" ∧ expected = "an integer number of milliseconds" ∧
      Holds lookup "TICKETLINE_TIMEOUT_MS" value ∧ ∀ ms, ¬ IsTimeout value ms) ∧
    (∀ s : Settings, load lookup = .ok s ↔
      Holds lookup "TICKETLINE_BASE_URL" s.baseUrl ∧
      (IsUnset lookup "TICKETLINE_TOKEN" ∧ s.token = none ∨
        ∃ token, Holds lookup "TICKETLINE_TOKEN" token ∧ s.token = some token) ∧
      (IsUnset lookup "TICKETLINE_TIMEOUT_MS" ∧ s.timeout = 10000 ∨
        ∃ raw, Holds lookup "TICKETLINE_TIMEOUT_MS" raw ∧ IsTimeout raw s.timeout)) ∧
    (∀ (ms : UInt64) (zeros : Nat) (front back : String), (∀ c ∈ front.toList ++ back.toList, isBlank c = true) →
      lookup "TICKETLINE_TIMEOUT_MS" =
        some (front ++ String.ofList (List.replicate zeros '0' ++ natDigits ms.toNat) ++ back) →
      ¬ IsUnset lookup "TICKETLINE_BASE_URL" →
      ∃ s, load lookup = .ok s ∧ s.timeout = ms.toNat) :=
  ⟨fun _ => load_eq_missing_iff, fun _ _ _ => load_eq_invalid_iff, fun _ => load_eq_ok_iff,
    fun ms zeros _ _ => exists_load_printed ms zeros⟩

/-- The variables of a client whose timeout was padded, and whose token is blank. -/
def paddedVariables (name : String) : Option String :=
  if name = baseUrlVariable then some "http://tickets.example"
  else if name = tokenVariable then some "\u2003"
  else if name = timeoutVariable then some "\u2003 0002500\t"
  else none

/-- A timeout between white space, with zeros before it. -/
theorem settings_loaded_padded : (∀ c ∈ "\u2003 ".toList ++ "\t".toList, isBlank c = true) ∧
    paddedVariables timeoutVariable =
      some ("\u2003 " ++ String.ofList (List.replicate 3 '0' ++ natDigits (2500 : UInt64).toNat) ++ "\t") ∧
    ¬ IsUnset paddedVariables baseUrlVariable ∧
    ∃ s, load paddedVariables = .ok s ∧ s.timeout = 2500 := by
  have blank : ∀ c ∈ "\u2003 ".toList ++ "\t".toList, isBlank c = true := List.all_eq_true.mp (by decide +kernel)
  have padded : paddedVariables timeoutVariable =
      some ("\u2003 " ++ String.ofList (List.replicate 3 '0' ++ natDigits (2500 : UInt64).toNat) ++ "\t") := by
    decide +kernel
  have set : ¬ IsUnset paddedVariables baseUrlVariable :=
    Holds.not_isUnset ⟨rfl, 'h', by decide +kernel, by decide⟩
  exact ⟨blank, padded, set, (settings_loaded paddedVariables).2.2.2 2500 3 "\u2003 " "\t" blank padded set⟩

end BoxOffice.Client.Settings
