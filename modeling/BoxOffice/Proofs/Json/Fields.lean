import Mathlib.Data.List.Forall2
import BoxOffice.Json.Record
import BoxOffice.Proofs.Json.Written

/-!
# Written records read back

What a reader reads off the tree of a written value, first for scalars and lists, then for records:

* `int64_tree`, `uint32_tree`, `uint64_tree`, `text_tree`, `list_tree` -- the value that was written;
* `Record.Fits r ms a` -- the members `ms`, in the order of the fields of `r`, make the record `a`.
  Such facts are put together like the record itself, with `field`, `map` and `seq`;
* `Record.Fits.read` -- an object of these members is read as `a`.
-/

namespace BoxOffice.Json

open BoxOffice.Number

/-! ## 1. Scalars and lists -/

/-- A written integer within the bounds is read. -/
theorem integer_tree {b : Bounds} {w : Wanted} {k : Int} (low : -(b.down : Int) ≤ k) (high : k ≤ b.up)
    (down : b.down ≤ Numeral.negativeLimit) (up : b.up ≤ Numeral.significandLimit) :
    integer b w (Value.integer k).tree = .ok k := by
  have amount : (Numeral.ofInt k).amount = .ok (.integer k) :=
    Numeral.amount_ofInt (by omega) (by omega)
  simp only [Value.tree, integer, amount, if_pos (And.intro low high)]

@[simp] theorem int64_tree (n : Int64) : int64 (Value.integer n.toInt).tree = .ok n := by
  have low := n.le_toInt
  have high := n.toInt_lt
  rw [int64, integer_tree (by simpa [Bounds.int64] using low) (by simp only [Bounds.int64]; omega)
    (by decide) (by decide)]
  exact congrArg Except.ok (Int64.ofInt_toInt n)

@[simp] theorem uint32_tree (n : UInt32) : uint32 (Value.integer n.toNat).tree = .ok n := by
  have high := n.toNat_lt
  rw [uint32, integer_tree (by simp only [Bounds.uint32]; omega) (by simp only [Bounds.uint32]; omega)
    (by decide) (by decide)]
  exact congrArg Except.ok UInt32.ofNat_toNat

@[simp] theorem uint64_tree (n : UInt64) : uint64 (Value.integer n.toNat).tree = .ok n := by
  have high := n.toNat_lt
  rw [uint64, integer_tree (by simp only [Bounds.uint64]; omega) (by simp only [Bounds.uint64]; omega)
    (by decide) (by decide)]
  exact congrArg Except.ok UInt64.ofNat_toNat

@[simp] theorem text_tree (s : String) : text (Value.text s).tree = .ok s := by
  simp only [Value.tree, text, Quoted.read_ofText]
  rfl

section List

variable {α : Type} {r : Reader α} {f : α → Value}

theorem items_itemTrees : ∀ {as : List α} (i : Nat), (∀ a ∈ as, r (f a).tree = .ok a) →
    items r i (Value.itemTrees (as.map f)) = .ok as
  | [], _, _ => rfl
  | a :: as, i, h => by
    have rest := items_itemTrees (i + 1) fun b hb => h b (List.mem_cons_of_mem a hb)
    rw [List.map_cons, Value.itemTrees, items, h a List.mem_cons_self, rest]
    rfl

/-- **A written list is read**, if each of its items is. -/
theorem list_tree {as : List α} (h : ∀ a ∈ as, r (f a).tree = .ok a) :
    list r (Value.list (as.map f)).tree = .ok as := by
  rw [Value.tree, list, items_itemTrees 0 h]
  rfl

end List

/-! ## 2. Records -/

/-- No tree of a value stands for a missing colon. -/
theorem colonFault?_tree (v : Value) : v.tree.colonFault? = none := by
  cases v with
  | float x =>
    rw [Value.tree, floatTree]
    split <;> rfl
  | null | boolean | integer | text | list | object => rfl

namespace Record

/-- **Members, in the order of the fields of a record, make up that record.** -/
structure Fits {α : Type} (r : Record α) (ms : List (String × Value)) (a : α) : Prop where
  fields : List.Forall₂ (fun f m => f.name = m.1 ∧ f.check m.2.tree = .ok ()) r.fields ms
  build : ∀ found : List (String × Tree), (∀ m ∈ ms, found.lookup m.1 = some m.2.tree) →
    r.build found = .ok a

namespace Fits

variable {α β : Type}

/-- One field. -/
theorem field {name : String} {r : Reader α} {v : Value} {a : α} (h : r v.tree = .ok a) :
    Fits (Json.field name r) [(name, v)] a where
  fields := by
    have checked : r.check v.tree = .ok () := by
      rw [Reader.check, h]
      rfl
    exact .cons ⟨rfl, checked⟩ .nil
  build found look := by
    have here := look (name, v) List.mem_cons_self
    simp only [Json.field, here, h]
    rfl

/-- The fields of two records. -/
theorem seq {f : Record (α → β)} {x : Record α} {ms ns : List (String × Value)} {g : α → β} {a : α}
    (hf : Fits f ms g) (hx : Fits x ns a) : Fits (f <*> x) (ms ++ ns) (g a) where
  fields := List.rel_append hf.fields hx.fields
  build found look := by
    have left := hf.build found fun m hm => look m (List.mem_append_left ns hm)
    have right := hx.build found fun m hm => look m (List.mem_append_right ms hm)
    have both : (f <*> x).build found = (do
        let g ← f.build found
        let a ← x.build found
        return g a) := rfl
    rw [both, left, right]
    rfl

/-- A record made of another one. -/
theorem map {x : Record α} {ms : List (String × Value)} {a : α} (g : α → β) (hx : Fits x ms a) :
    Fits (g <$> x) ms (g a) :=
  have none : Fits (Pure.pure g : Record (α → β)) [] g := ⟨.nil, fun _ _ => rfl⟩
  none.seq hx

end Fits

/-- A field is found by its name, if no other has it. -/
theorem find?_of_nodup {f : Field} : ∀ {fields : List Field}, (fields.map (·.name)).Nodup →
    f ∈ fields → fields.find? (·.name == f.name) = some f
  | g :: fields, distinct, h => by
    rw [List.map_cons, List.nodup_cons] at distinct
    rcases List.mem_cons.mp h with rfl | h
    · exact List.find?_cons_of_pos (beq_self_eq_true _)
    · have mem : f.name ∈ fields.map (·.name) := List.mem_map_of_mem h
      have other : (g.name == f.name) = false := by
        rw [beq_eq_false_iff_ne]
        exact fun same => distinct.1 (same ▸ mem)
      rw [List.find?_cons, other]
      exact find?_of_nodup distinct.2 h

theorem lookup_concat_eq_none_iff {name other : String} {t : Tree} {found : List (String × Tree)} :
    (found ++ [(other, t)]).lookup name = none ↔ name ≠ other ∧ found.lookup name = none := by
  rw [List.lookup_append, Option.or_eq_none_iff, and_comm]
  simp

/-- Members that pass the checks of fields of their names are all found. -/
theorem members_memberTrees {fields fs : List Field} {ms : List (String × Value)}
    (distinct : (fields.map (·.name)).Nodup)
    (fits : List.Forall₂ (fun f m => f.name = m.1 ∧ f.check m.2.tree = .ok ()) fs ms)
    (known : ∀ f ∈ fs, f ∈ fields) (nodup : (ms.map (·.1)).Nodup) (found : List (String × Tree))
    (new : ∀ m ∈ ms, found.lookup m.1 = none) :
    members fields found (Value.memberTrees ms) = .ok (found ++ ms.map fun m => (m.1, m.2.tree)) := by
  induction fits generalizing found with
  | nil =>
    rw [List.map_nil, List.append_nil]
    rfl
  | @cons f m fs ms here rest ih =>
    obtain ⟨name, v⟩ := m
    obtain ⟨named, checked⟩ := here
    have field : fields.find? (·.name == name) = some f := by
      have := find?_of_nodup distinct (known f List.mem_cons_self)
      rwa [named] at this
    have first : found.lookup name = none := new (name, v) List.mem_cons_self
    rw [List.map_cons, List.nodup_cons] at nodup
    have later := ih (fun g hg => known g (List.mem_cons_of_mem f hg)) nodup.2
      (found ++ [(name, v.tree)]) fun m hm => by
        have mem : m.1 ∈ ms.map (·.1) := List.mem_map_of_mem hm
        refine lookup_concat_eq_none_iff.mpr ⟨fun same => ?_, new m (List.mem_cons_of_mem _ hm)⟩
        exact nodup.1 (same ▸ mem)
    have read : Json.here (Quoted.ofText name).read = .ok name := by
      rw [Quoted.read_ofText]
      rfl
    have checks : Json.under (.member name) (f.check v.tree) = .ok () := by
      rw [checked]
      rfl
    rw [Value.memberTrees, Value.memberTree, members, read]
    simp only [field, first, Option.isSome_none, colonFault?_tree, checks, bind, Except.bind]
    refine later.trans ?_
    rw [List.map_cons, List.append_assoc]
    rfl

/-- What stands under a name is found there, if no other has it. -/
theorem lookup_of_nodup {β : Type} : ∀ {ps : List (String × β)}, (ps.map (·.1)).Nodup → ∀ p ∈ ps,
    ps.lookup p.1 = some p.2
  | q :: ps, distinct, p, h => by
    rw [List.map_cons, List.nodup_cons] at distinct
    rcases List.mem_cons.mp h with rfl | h
    · exact List.lookup_cons_self
    · have mem : p.1 ∈ ps.map (·.1) := List.mem_map_of_mem h
      have other : (p.1 == q.1) = false := by
        rw [beq_eq_false_iff_ne]
        exact fun same => distinct.1 (same ▸ mem)
      rw [List.lookup_cons, other]
      exact lookup_of_nodup distinct.2 p h

/-- **An object of a record's members is read as that record.** -/
theorem Fits.read {α : Type} {r : Record α} {ms : List (String × Value)} {a : α} (h : Fits r ms a)
    (distinct : (r.fields.map (·.name)).Nodup) (title : String) :
    r.reader title (Value.object ms).tree = .ok a := by
  have names : ∀ {fs : List Field} {ms : List (String × Value)},
      List.Forall₂ (fun f m => f.name = m.1 ∧ f.check m.2.tree = .ok ()) fs ms →
      fs.map (·.name) = ms.map (·.1) := by
    intro fs ms fits
    induction fits with
    | nil => rfl
    | cons here _ ih => rw [List.map_cons, List.map_cons, here.1, ih]
  have nodup : (ms.map (·.1)).Nodup := names h.fields ▸ distinct
  have found := members_memberTrees distinct h.fields (fun _ hf => hf) nodup [] fun _ _ => rfl
  have trees : ((ms.map fun m => (m.1, m.2.tree)).map (·.1)).Nodup := by rwa [List.map_map]
  have built := h.build _ fun m mem => lookup_of_nodup trees (m.1, m.2.tree) (List.mem_map_of_mem mem)
  rw [Value.tree, reader, found]
  exact built

end Record

end BoxOffice.Json
