import BoxOffice.Number.Bounded
import BoxOffice.Number.FloatStyle
import BoxOffice.Text.Literal

/-!
# Inspections

An `Inspection` shows a value for a reader of logs: records with the names of their fields, variants
with their parts, texts as literals.

* `Inspection.render` -- the text;
* `Inspect α` -- the types that have an inspection.
-/

namespace BoxOffice

open BoxOffice.Number

/-- A value as a reader of logs sees it. -/
inductive Inspection where
  /-- a word or a number as it stands -/
  | word (s : String)
  /-- a text -/
  | text (s : String)
  /-- a double -/
  | float (x : Float)
  /-- a record with its title and its fields -/
  | record (title : String) (fields : List (String × Inspection))
  /-- a variant with its parts; a pair has no name -/
  | variant (name : String) (parts : List Inspection)
  /-- a list -/
  | list (parts : List Inspection)

namespace Inspection

/-- How an inspection writes a double: positionally from `10 ^ -4` on and below `10 ^ 16`. -/
def floatStyle : FloatStyle := ⟨.up, some (-4, 16), true, false, "NaN", "inf"⟩

mutual

/-- The text of an inspection, as characters. -/
def chars : Inspection → List Char
  | .word s => s.toList
  | .text s => (Text.literal s).toList
  | .float x => floatStyle.write x
  | .record title fields => title.toList ++ ' ' :: '{' :: ' ' :: fieldChars fields ++ [' ', '}']
  | .variant name parts => name.toList ++ '(' :: partChars parts ++ [')']
  | .list parts => '[' :: partChars parts ++ [']']

/-- Parts with commas between them. -/
def partChars : List Inspection → List Char
  | [] => []
  | [p] => p.chars
  | p :: q :: ps => p.chars ++ ',' :: ' ' :: partChars (q :: ps)

/-- Fields with commas between them. -/
def fieldChars : List (String × Inspection) → List Char
  | [] => []
  | [f] => fieldChar f
  | f :: g :: fs => fieldChar f ++ ',' :: ' ' :: fieldChars (g :: fs)

/-- One field. -/
def fieldChar : String × Inspection → List Char
  | (name, p) => name.toList ++ ':' :: ' ' :: p.chars

end

/-- **The text of an inspection.** -/
def render (i : Inspection) : String := String.ofList i.chars

end Inspection

/-- The types whose values can be inspected. -/
class Inspect (α : Type) where
  inspect : α → Inspection

export Inspect (inspect)

instance : Inspect String := ⟨.text⟩

instance : Inspect Nat := ⟨fun n => .word (String.ofList (natDigits n))⟩

instance : Inspect Int64 := ⟨fun n => .word (String.ofList (intDigits n.toInt))⟩

instance : Inspect UInt16 := ⟨fun n => inspect n.toNat⟩

instance : Inspect UInt32 := ⟨fun n => inspect n.toNat⟩

instance : Inspect UInt64 := ⟨fun n => inspect n.toNat⟩

instance : Inspect Float := ⟨.float⟩

instance : Inspect Bool := ⟨fun b => .word (if b then "true" else "false")⟩

instance {α β : Type} [Inspect α] [Inspect β] : Inspect (α × β) :=
  ⟨fun p => .variant "" [inspect p.1, inspect p.2]⟩

instance {α : Type} [Inspect α] : Inspect (List α) := ⟨fun as => .list (as.map inspect)⟩

instance {α : Type} [Inspect α] : Inspect (Option α) :=
  ⟨fun
    | none => .word "None"
    | some a => .variant "Some" [inspect a]⟩

end BoxOffice
