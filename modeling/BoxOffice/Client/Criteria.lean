import BoxOffice.Number.Bounded
import BoxOffice.Number.FloatStyle

/-!
# Search criteria

* `Criterion` -- what is asked for under a name: a text, a number, a truth value, or nothing. It is
  *present* unless it is nothing or the empty text; zero and `false` are present;
* `Criteria` -- the present criteria in the order in which they were given, as pairs of name and
  text. A name may occur more than once.

* `pairs_ofEntries_append`, `pairs_push` -- giving criteria at once or one by one is the same.
-/

namespace BoxOffice.Client

open BoxOffice.Number

/-! ## 1. One criterion -/

/-- What is asked for under a name. -/
inductive Criterion where
  | absent
  | text (s : String)
  | integer (n : Int64)
  | natural (n : UInt64)
  | float (x : Float)
  | boolean (b : Bool)
  deriving DecidableEq, Repr

namespace Criterion

/-- Something is asked for. -/
def isPresent : Criterion → Bool
  | .absent => false
  | .text s => !s.isEmpty
  | _ => true

/-- The text of a criterion. -/
def render : Criterion → Option String
  | .absent => none
  | .text s => some s
  | .integer n => some (String.ofList (intDigits n.toInt))
  | .natural n => some (String.ofList (natDigits n.toNat))
  | .float x => some (String.ofList (FloatStyle.plain.write x))
  | .boolean true => some "true"
  | .boolean false => some "false"

/-- Equality of criteria of one kind, doubles compared as numbers. -/
def same : Criterion → Criterion → Bool
  | .float x, .float y => x == y
  | a, b => a == b

/-- A criterion that may be missing. -/
def ofOption {α : Type} (f : α → Criterion) : Option α → Criterion
  | none => .absent
  | some a => f a

end Criterion

/-! ## 2. Lists of criteria -/

/-- The present criteria, in order. -/
structure Criteria where
  pairs : List (String × String)
  deriving DecidableEq, Repr, Inhabited

namespace Criteria

/-- No criteria. -/
def empty : Criteria := ⟨[]⟩

/-- One more criterion, kept if it is present. -/
def push (c : Criteria) (name : String) (k : Criterion) : Criteria :=
  if k.isPresent then
    match k.render with
    | some s => ⟨c.pairs ++ [(name, s)]⟩
    | none => c
  else c

/-- The criteria that are present among the given ones. -/
def ofEntries (entries : List (String × Criterion)) : Criteria :=
  entries.foldl (fun c e => c.push e.1 e.2) empty

/-- The text of the first criterion of a name. -/
def get? (c : Criteria) (name : String) : Option String := c.pairs.lookup name

/-- The number of criteria. -/
def size (c : Criteria) : Nat := c.pairs.length

/-- There are no criteria. -/
def isEmpty (c : Criteria) : Bool := c.pairs.isEmpty

/-- The pair of an entry, if it is present. -/
def pair? (e : String × Criterion) : Option (String × String) :=
  if e.2.isPresent then e.2.render.map fun s => (e.1, s) else none

/-- A criterion given adds its pair, if it has one. -/
theorem pairs_push (c : Criteria) (name : String) (k : Criterion) :
    (c.push name k).pairs = c.pairs ++ (pair? (name, k)).toList := by
  unfold push pair?
  by_cases h : k.isPresent = true
  · cases hr : k.render <;> simp [h]
  · simp [h]

theorem pairs_foldl (entries : List (String × Criterion)) : ∀ c : Criteria,
    (entries.foldl (fun c e => c.push e.1 e.2) c).pairs = c.pairs ++ entries.filterMap pair? := by
  induction entries with
  | nil => simp
  | cons e es ih =>
    intro c
    rw [List.foldl_cons, ih, pairs_push]
    cases h : pair? e with
    | none => simp [h]
    | some p => simp [h]

/-- **The pairs of criteria given at once.** -/
theorem pairs_ofEntries (entries : List (String × Criterion)) :
    (ofEntries entries).pairs = entries.filterMap pair? := by
  simp [ofEntries, pairs_foldl, empty]

/-- Criteria given in two parts are the criteria of both. -/
theorem pairs_ofEntries_append (xs ys : List (String × Criterion)) :
    (ofEntries (xs ++ ys)).pairs = (ofEntries xs).pairs ++ (ofEntries ys).pairs := by
  simp [pairs_ofEntries]

end Criteria

end BoxOffice.Client
