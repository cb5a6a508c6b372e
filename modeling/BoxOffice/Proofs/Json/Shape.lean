import BoxOffice.Proofs.Json.Members
import BoxOffice.Proofs.Json.Spacing
import Mathlib.Data.List.Nodup
import Mathlib.Logic.Relation

/-!
# Objects however they are laid out

* `Shape` -- where a reader meets records and lists, and which members of a record it knows;
* `Moved` -- one change of a tree that leaves what it means: members change places, or come from nowhere under a name
  that nobody asked for; `Flawed` -- a known member is there twice, or not at all;
* `Reads r s` -- for `r`, trees of shape `s` mean the same after such a change, and nothing if they are flawed. Such
  facts are put together like readers, with `Reads.list` and `Reads.record`.
-/

namespace BoxOffice.Json

/-! ## 1. Shapes -/

/-- Where a reader meets records and lists. -/
inductive Shape where
  /-- neither: an id, a count, a text, a name -/
  | scalar
  | list (item : Shape)
  /-- a record whose fields have these names and shapes -/
  | record (fields : List (String × Shape))

/-- **One change of a tree that its reader does not notice.** The name of a member has to be readable, even if nobody
    asked for it; its value only has to be complete. -/
inductive Moved : Shape → Tree → Tree → Prop where
  | permuted {fields : List (String × Shape)} {ms ns : List (Quoted × Tree)} {e : ObjectEnd} (same : ms.Perm ns) :
      Moved (.record fields) (.object ms e) (.object ns e)
  | added {fields : List (String × Shape)} {before after : List (Quoted × Tree)} {e : ObjectEnd} {k : Quoted}
      {t : Tree} {name : String} (named : k.read = .ok name) (unknown : name ∉ fields.map (·.1))
      (complete : t.Complete) :
      Moved (.record fields) (.object (before ++ after) e) (.object (before ++ (k, t) :: after) e)
  | replaced {fields : List (String × Shape)} {before after : List (Quoted × Tree)} {e : ObjectEnd} {k : Quoted}
      {t u : Tree} {name : String} (named : k.read = .ok name) (unknown : name ∉ fields.map (·.1))
      (complete : u.Complete) :
      Moved (.record fields) (.object (before ++ (k, t) :: after) e) (.object (before ++ (k, u) :: after) e)
  | inMember {fields : List (String × Shape)} {before after : List (Quoted × Tree)} {e : ObjectEnd} {k : Quoted}
      {t u : Tree} {name : String} {s : Shape} (named : k.read = .ok name) (known : (name, s) ∈ fields)
      (moved : Moved s t u) :
      Moved (.record fields) (.object (before ++ (k, t) :: after) e) (.object (before ++ (k, u) :: after) e)
  | inItem {s : Shape} {before after : List Tree} {e : ListEnd} {t u : Tree} (moved : Moved s t u) :
      Moved (.list s) (.list (before ++ t :: after) e) (.list (before ++ u :: after) e)

/-- **A known member is there twice, or not at all**, somewhere in a tree. -/
inductive Flawed : Shape → Tree → Prop where
  | repeated {fields : List (String × Shape)} {ms : List (Quoted × Tree)} {e : ObjectEnd} {k l : Quoted}
      {t u : Tree} {name : String} (twice : [(k, t), (l, u)].Sublist ms) (first : k.read = .ok name)
      (second : l.read = .ok name) (known : name ∈ fields.map (·.1)) : Flawed (.record fields) (.object ms e)
  | missing {fields : List (String × Shape)} {ms : List (Quoted × Tree)} {e : ObjectEnd} {name : String}
      (known : name ∈ fields.map (·.1)) (absent : ∀ m ∈ ms, m.1.read ≠ .ok name) :
      Flawed (.record fields) (.object ms e)
  | inMember {fields : List (String × Shape)} {ms : List (Quoted × Tree)} {e : ObjectEnd} {k : Quoted} {t : Tree}
      {name : String} {s : Shape} (mem : (k, t) ∈ ms) (named : k.read = .ok name) (known : (name, s) ∈ fields)
      (flawed : Flawed s t) : Flawed (.record fields) (.object ms e)
  | inItem {s : Shape} {ts : List Tree} {e : ListEnd} {t : Tree} (mem : t ∈ ts) (flawed : Flawed s t) :
      Flawed (.list s) (.list ts e)

/-- **A reader reads trees of a shape**: it does not notice the changes that shape allows, takes no flawed tree and no
    tree that is not complete. -/
structure Reads {α : Type} (r : Reader α) (s : Shape) : Prop where
  moved : ∀ {t u : Tree} {a : α}, Moved s t u → r t = .ok a → r u = .ok a
  flawed : ∀ {t : Tree} {a : α}, Flawed s t → r t ≠ .ok a
  complete : ∀ {t : Tree} {a : α}, r t = .ok a → t.Complete

/-! ## 2. Scalars and lists -/

namespace Reads

variable {α β : Type} {r : Reader α} {s : Shape}

/-- A scalar has no parts that could change. -/
theorem scalar (complete : ∀ {t : Tree} {a : α}, r t = .ok a → t.Complete) : Reads r .scalar where
  moved moved _ := by cases moved
  flawed flawed _ := by cases flawed
  complete := complete

/-- What is made of a value changes nothing. -/
theorem map (reads : Reads r s) (f : α → β) : Reads (fun t => (r t).map f) s where
  moved moved read := by
    obtain ⟨a, read, same⟩ := map_eq_ok_iff.mp read
    exact map_eq_ok_iff.mpr ⟨a, reads.moved moved read, same⟩
  flawed flawed read := by
    obtain ⟨a, read, _⟩ := map_eq_ok_iff.mp read
    exact reads.flawed flawed read
  complete read := by
    obtain ⟨a, read, _⟩ := map_eq_ok_iff.mp read
    exact reads.complete read

theorem integer (b : Number.Bounds) (w : Wanted) : Reads (integer b w) .scalar :=
  scalar fun {t a} read => by
    unfold Json.integer at read
    split at read
    · exact .number _
    · exact absurd read (wrongKind_ne_ok _ _ _)

theorem int64 : Reads int64 .scalar := (integer .int64 .int64).map _

theorem uint32 : Reads uint32 .scalar := (integer .uint32 .uint32).map _

theorem uint64 : Reads uint64 .scalar := (integer .uint64 .uint64).map _

theorem text : Reads text .scalar :=
  scalar fun {t a} read => by
    unfold Json.text at read
    split at read
    · exact .text (Quoted.isClosed_of_read (here_eq_ok_iff.mp read))
    · exact absurd read (wrongKind_ne_ok _ _ _)

theorem complete_of_unit {t : Tree} (read : unit t = .ok ()) : t.Complete := by
  unfold Json.unit at read
  split at read
  · exact .null
  · exact absurd read (wrongKind_ne_ok _ _ _)

/-- A name may be given as an object, but this has one member and no other. -/
theorem oneOf (a b : String × α) : Reads (oneOf a b) .scalar :=
  scalar fun {t v} read => by
    unfold Json.oneOf at read
    split at read
    · obtain ⟨name, named, _⟩ := exists_of_bind_eq_ok (here_eq_ok_iff.mp read)
      exact .text (Quoted.isClosed_of_read named)
    · cases read
    · next k t more e =>
      obtain ⟨v', chosen, read⟩ := exists_of_bind_eq_ok read
      obtain ⟨name, named, _⟩ := exists_of_bind_eq_ok (here_eq_ok_iff.mp chosen)
      rw [bind_unit_eq_ok_iff, bind_unit_eq_ok_iff, here_eq_ok_iff, unlessFault_eq_ok] at read
      obtain ⟨null, ending, _⟩ := read
      have alone : more = [] ∧ e = .closed := by
        cases more <;> cases e <;> first | exact ⟨rfl, rfl⟩ | cases ending
      obtain ⟨rfl, rfl⟩ := alone
      refine .object (fun m mem => ?_) fun m mem => ?_ <;> cases List.mem_singleton.mp mem
      · exact Quoted.isClosed_of_read named
      · exact complete_of_unit null
    all_goals cases read

theorem items_eq_ok_iff : ∀ {ts : List Tree} {i : Nat} {as : List α},
    items r i ts = .ok as ↔ List.Forall₂ (fun t a => r t = .ok a) ts as
  | [], i, as => by
    rw [items, Except.ok.injEq, List.forall₂_nil_left_iff]
    exact eq_comm
  | t :: ts, i, as => by
    rw [List.forall₂_cons_left_iff]
    constructor
    · intro read
      obtain ⟨a, here, read⟩ := exists_of_bind_eq_ok read
      obtain ⟨as', rest, read⟩ := exists_of_bind_eq_ok read
      cases read
      exact ⟨a, as', under_eq_ok_iff.mp here, items_eq_ok_iff.mp rest, rfl⟩
    · rintro ⟨a, as', here, rest, rfl⟩
      rw [items, under_eq_ok_iff.mpr here, ok_bind, items_eq_ok_iff.mpr rest]
      rfl

theorem exists_list_of_read {t : Tree} {as : List α} (read : Json.list r t = .ok as) : ∃ ts e, t = .list ts e := by
  unfold Json.list at read
  split at read
  · next ts e => exact ⟨ts, e, rfl⟩
  · exact absurd read (wrongKind_ne_ok _ _ _)

theorem list_eq_ok_iff {ts : List Tree} {e : ListEnd} {as : List α} :
    Json.list r (.list ts e) = .ok as ↔ List.Forall₂ (fun t a => r t = .ok a) ts as ∧ e = .closed := by
  have ends : unlessFault e.fault? = .ok () ↔ e = .closed := by
    cases e <;> exact ⟨(fun h => by cases h <;> rfl), (fun h => by cases h <;> rfl)⟩
  constructor
  · intro read
    obtain ⟨as', rest, read⟩ := exists_of_bind_eq_ok read
    rw [bind_unit_eq_ok_iff, here_eq_ok_iff, ends] at read
    obtain ⟨closed, same⟩ := read
    cases same
    exact ⟨items_eq_ok_iff.mp rest, closed⟩
  · rintro ⟨rest, rfl⟩
    rw [Json.list, items_eq_ok_iff.mpr rest]
    rfl

/-- What is read off items is still read if one of them changes. -/
theorem forall₂_change {t u : Tree} (change : ∀ a, r t = .ok a → r u = .ok a) :
    ∀ {before after : List Tree} {as : List α}, List.Forall₂ (fun t a => r t = .ok a) (before ++ t :: after) as →
      List.Forall₂ (fun t a => r t = .ok a) (before ++ u :: after) as
  | [], _, _, .cons here rest => .cons (change _ here) rest
  | _ :: _, _, _, .cons here rest => .cons here (forall₂_change change rest)

theorem exists_of_forall₂ {t : Tree} : ∀ {ts : List Tree} {as : List α},
    List.Forall₂ (fun t a => r t = .ok a) ts as → t ∈ ts → ∃ a, r t = .ok a
  | _ :: _, a :: _, .cons here rest, mem => by
    rcases List.mem_cons.mp mem with rfl | mem
    · exact ⟨a, here⟩
    · exact exists_of_forall₂ rest mem

/-- **A list of what is read is read.** -/
theorem list (reads : Reads r s) : Reads (Json.list r) (.list s) where
  moved moved read := by
    cases moved with
    | inItem moved =>
      obtain ⟨rest, closed⟩ := list_eq_ok_iff.mp read
      exact list_eq_ok_iff.mpr ⟨forall₂_change (fun _ => reads.moved moved) rest, closed⟩
  flawed flawed read := by
    cases flawed with
    | inItem mem flawed =>
      obtain ⟨a, read⟩ := exists_of_forall₂ (list_eq_ok_iff.mp read).1 mem
      exact reads.flawed flawed read
  complete read := by
    obtain ⟨ts, e, rfl⟩ := exists_list_of_read read
    obtain ⟨rest, rfl⟩ := list_eq_ok_iff.mp read
    refine .list fun t mem => ?_
    obtain ⟨a, read⟩ := exists_of_forall₂ rest mem
    exact reads.complete read

end Reads

/-! ## 3. Records -/

/-- A field has this name, and what it checks are trees of this shape. -/
def Field.Suits (f : Field) (p : String × Shape) : Prop := f.name = p.1 ∧ Reads (f.check : Reader Unit) p.2

/-- **The fields of a record have these names and shapes**, all of them are needed, and nothing else of what is found
    counts. -/
structure Record.Holds {α : Type} (r : Record α) (fields : List (String × Shape)) : Prop where
  checks : List.Forall₂ Field.Suits r.fields fields
  needs : ∀ {found : List (String × Tree)} {a : α}, r.build found = .ok a →
    ∀ p ∈ fields, ∃ t, found.lookup p.1 = some t
  build : ∀ {found found' : List (String × Tree)} {a : α}, (∀ p ∈ fields, ∀ t, found.lookup p.1 = some t →
    ∃ u, found'.lookup p.1 = some u ∧ (t = u ∨ Moved p.2 t u)) → r.build found = .ok a → r.build found' = .ok a

namespace Record.Holds

variable {α β : Type}

/-- One field. -/
theorem field {r : Reader α} {s : Shape} (name : String) (reads : Reads r s) :
    Holds (Json.field name r) [(name, s)] where
  checks := .cons ⟨rfl, reads.map _⟩ .nil
  needs {found a} built p mem := by
    cases List.mem_singleton.mp mem
    unfold Json.field at built
    dsimp only at built
    split at built
    · next t look => exact ⟨t, look⟩
    · cases built
  build {found found' a} related built := by
    unfold Json.field at built ⊢
    dsimp only at built ⊢
    split at built
    · next t look =>
      obtain ⟨u, look', same⟩ := related (name, s) List.mem_cons_self t look
      rw [look']
      refine under_eq_ok_iff.mpr ?_
      rcases same with rfl | moved
      · exact under_eq_ok_iff.mp built
      · exact reads.moved moved (under_eq_ok_iff.mp built)
    · cases built

/-- The fields of two records. -/
theorem seq {f : Record (α → β)} {x : Record α} {fields more : List (String × Shape)} (hf : Holds f fields)
    (hx : Holds x more) : Holds (f <*> x) (fields ++ more) where
  checks := List.rel_append hf.checks hx.checks
  needs built p mem := by
    obtain ⟨g, made, built⟩ := exists_of_bind_eq_ok built
    obtain ⟨b, made', _⟩ := exists_of_bind_eq_ok built
    rcases List.mem_append.mp mem with mem | mem
    · exact hf.needs made p mem
    · exact hx.needs made' p mem
  build {found found' _} related built := by
    obtain ⟨g, made, built⟩ := exists_of_bind_eq_ok built
    obtain ⟨b, made', built⟩ := exists_of_bind_eq_ok built
    have left := hf.build (fun p mem => related p (List.mem_append_left more mem)) made
    have right := hx.build (fun p mem => related p (List.mem_append_right fields mem)) made'
    have both : (f <*> x).build found' = (do
        let g ← f.build found'
        let a ← x.build found'
        return g a) := rfl
    rw [both, left, right]
    exact built

/-- A record made of another one. -/
theorem map {x : Record α} {fields : List (String × Shape)} (g : α → β) (hx : Holds x fields) :
    Holds (g <$> x) fields :=
  have none : Holds (Pure.pure g : Record (α → β)) [] := ⟨.nil, fun _ _ mem => (by cases mem), fun _ built => built⟩
  none.seq hx

end Record.Holds

namespace Record

variable {α : Type} {fields : List (String × Shape)} {fs : List Field} {name : String}

/-- A name is no field's if it is none of the shape's. -/
theorem find?_eq_none_iff (checks : List.Forall₂ Field.Suits fs fields) :
    fs.find? (·.name == name) = none ↔ name ∉ fields.map (·.1) := by
  rw [List.find?_eq_none]
  induction checks with
  | nil => exact ⟨fun _ => List.not_mem_nil, nofun⟩
  | @cons f p fs fields here _ ih =>
    rw [List.forall_mem_cons, ih, List.map_cons, List.mem_cons, not_or, beq_iff_eq, here.1, eq_comm]

/-- The field of a name checks for the shape of that name. -/
theorem exists_field (checks : List.Forall₂ Field.Suits fs fields)
    {f : Field} (field : fs.find? (·.name == name) = some f) :
    ∃ s, (name, s) ∈ fields ∧ Reads (f.check : Reader Unit) s := by
  induction checks with
  | nil => cases field
  | @cons g p fs fields here _ ih =>
    rw [List.find?_cons] at field
    split at field
    · next same =>
      cases field
      exact ⟨p.2, by rw [← beq_iff_eq.mp same, here.1]; exact List.mem_cons_self, here.2⟩
    · obtain ⟨s, mem, reads⟩ := ih field
      exact ⟨s, List.mem_cons_of_mem p mem, reads⟩

theorem exists_of_checks (checks : List.Forall₂ Field.Suits fs fields)
    {f : Field} (mem : f ∈ fs) : ∃ s, Reads (f.check : Reader Unit) s := by
  induction checks with
  | nil => cases mem
  | cons here _ ih =>
    rcases List.mem_cons.mp mem with rfl | mem
    · exact ⟨_, here.2⟩
    · exact ih mem

/-- Under one name stands one shape only. -/
theorem eq_of_mem_of_nodup (distinct : (fields.map (·.1)).Nodup) {s s' : Shape} (h : (name, s) ∈ fields)
    (h' : (name, s') ∈ fields) : s = s' := by
  have look := lookup_of_nodup distinct (name, s) h
  rw [lookup_of_nodup distinct (name, s') h'] at look
  exact (Option.some.inj look).symm

theorem mem_of_lookup {found : List (String × Tree)} {t : Tree} (look : found.lookup name = some t) :
    (name, t) ∈ found := by
  obtain ⟨before, after, rfl, _⟩ := List.lookup_eq_some_iff.mp look
  exact List.mem_append_right before List.mem_cons_self

/-- If one value changes, what is found under a name is the same as before, or that value. -/
theorem lookup_change {before after : List (String × Tree)} {key : String} {t u v : Tree}
    (look : (before ++ (name, t) :: after).lookup key = some v) :
    (before ++ (name, u) :: after).lookup key = some v ∨
      key = name ∧ v = t ∧ (before ++ (name, u) :: after).lookup key = some u := by
  rw [List.lookup_append] at look ⊢
  cases first : before.lookup key with
  | some w =>
    rw [first] at look
    exact Or.inl look
  | none =>
    rw [first, Option.none_or, List.lookup_cons] at look
    rw [Option.none_or, List.lookup_cons]
    cases same : key == name with
    | true =>
      rw [same] at look
      cases look
      exact Or.inr ⟨beq_iff_eq.mp same, rfl, rfl⟩
    | false =>
      rw [same] at look
      exact Or.inl look

/-- Items that are read as the fields of a record are complete. -/
theorem complete_of_positions {title : String} {count : Nat} {e : ListEnd} :
    ∀ {fs : List Field} {ts : List Tree} {i : Nat} {found : List (String × Tree)},
    (∀ f ∈ fs, ∀ t, f.check t = .ok () → t.Complete) → positions title count e i fs ts = .ok found →
    (∀ t ∈ ts, t.Complete) ∧ e = .closed
  | [], [], _, found, _, read => by
    rw [positions, bind_unit_eq_ok_iff, here_eq_ok_iff, unlessFault_eq_ok] at read
    refine ⟨nofun, ?_⟩
    cases e <;> first | rfl | cases read.1
  | [], _ :: _, _, _, _, read => by cases read
  | _ :: _, [], _, _, _, read => by
    unfold positions at read
    split at read <;> cases read
  | f :: fs, t :: ts, i, found, checks, read => by
    rw [positions, bind_unit_eq_ok_iff, under_eq_ok_iff] at read
    obtain ⟨checked, read⟩ := read
    obtain ⟨found', rest, _⟩ := exists_of_bind_eq_ok read
    obtain ⟨later, closed⟩ := complete_of_positions (fun g mem => checks g (List.mem_cons_of_mem f mem)) rest
    refine ⟨fun u mem => ?_, closed⟩
    rcases List.mem_cons.mp mem with rfl | mem
    · exact checks f List.mem_cons_self u checked
    · exact later u mem

section Reader

variable {α : Type} {r : Record α} {title : String}

/-- Every field is found under its name. -/
theorem Holds.exists_field (holds : r.Holds fields) (distinct : (fields.map (·.1)).Nodup) {s : Shape}
    (known : (name, s) ∈ fields) :
    ∃ f, r.fields.find? (·.name == name) = some f ∧ Reads (f.check : Reader Unit) s := by
  cases look : r.fields.find? (·.name == name) with
  | none => exact absurd (List.mem_map_of_mem known) ((find?_eq_none_iff holds.checks).mp look)
  | some f =>
    obtain ⟨s', mem, reads⟩ := Record.exists_field holds.checks look
    exact ⟨f, rfl, eq_of_mem_of_nodup distinct mem known ▸ reads⟩

/-- A record is read as before after any change that its shape allows. -/
theorem Holds.moved (holds : r.Holds fields) (distinct : (fields.map (·.1)).Nodup) {t u : Tree} {a : α}
    (moved : Moved (.record fields) t u) (read : r.reader title t = .ok a) : r.reader title u = .ok a := by
  cases moved with
  | permuted same =>
    rw [reader_object_iff] at read ⊢
    obtain ⟨passes, once, closed, built⟩ := read
    have kept := same.filterMap (known? r.fields)
    have once' := (kept.map (·.1)).nodup_iff.mp once
    refine ⟨fun m mem => passes m (same.mem_iff.mpr mem), once', closed, holds.build (fun p _ t look => ?_) built⟩
    exact ⟨t, lookup_of_nodup once' (p.1, t) (kept.mem_iff.mp (mem_of_lookup look)), Or.inl rfl⟩
  | added named unknown complete =>
    exact (reader_unknown_iff named ((find?_eq_none_iff holds.checks).mpr unknown)).mpr ⟨complete, read⟩
  | replaced named unknown complete =>
    have none := (find?_eq_none_iff holds.checks).mpr unknown
    exact (reader_unknown_iff named none).mpr ⟨complete, ((reader_unknown_iff named none).mp read).2⟩
  | @inMember _ before after e k t u name s named known moved =>
    obtain ⟨f, field, reads⟩ := holds.exists_field distinct known
    rw [reader_object_iff, known_around named field] at read ⊢
    obtain ⟨passes, once, closed, built⟩ := read
    rw [List.forall_mem_append, List.forall_mem_cons] at passes ⊢
    obtain ⟨left, here, right⟩ := passes
    have checked := reads.moved moved ((passes_iff_of_field named field).mp here).2
    have here' := (passes_iff_of_field named field).mpr ⟨(reads.complete checked).colonFault?, checked⟩
    refine ⟨⟨left, here', right⟩, ?_, closed, holds.build (fun p mem v look => ?_) built⟩
    · rwa [List.map_append, List.map_cons] at once ⊢
    · rcases lookup_change look with same | ⟨same, rfl, changed⟩
      · exact ⟨v, same, Or.inl rfl⟩
      · have shape : s = p.2 := eq_of_mem_of_nodup distinct known (same ▸ mem)
        exact ⟨u, changed, Or.inr (shape ▸ moved)⟩

/-- No record is read from a flawed tree. -/
theorem Holds.flawed (holds : r.Holds fields) (distinct : (fields.map (·.1)).Nodup) {t : Tree} {a : α}
    (flawed : Flawed (.record fields) t) : r.reader title t ≠ .ok a := by
  intro read
  cases flawed with
  | @repeated _ ms e k l t u name twice first second known =>
    obtain ⟨⟨_, s⟩, mem, rfl⟩ := List.mem_map.mp known
    obtain ⟨f, field, _⟩ := holds.exists_field distinct mem
    have once := (reader_object_iff.mp read).2.1
    have pair := (twice.filterMap (known? r.fields)).map (·.1)
    rw [List.filterMap_cons_some (known?_of_field first field),
      List.filterMap_cons_some (known?_of_field second field), List.filterMap_nil] at pair
    exact List.nodup_iff_sublist.mp once _ pair
  | @missing _ ms e name known absent =>
    obtain ⟨p, mem, rfl⟩ := List.mem_map.mp known
    obtain ⟨t, look⟩ := holds.needs (reader_object_iff.mp read).2.2.2 p mem
    obtain ⟨k, mem, named⟩ := exists_of_mem_known (mem_of_lookup look)
    exact absent (k, t) mem named
  | inMember mem named known flawed =>
    obtain ⟨f, field, reads⟩ := holds.exists_field distinct known
    have passes := (reader_object_iff.mp read).1 _ mem
    exact reads.flawed flawed ((passes_iff_of_field named field).mp passes).2

/-- Nothing is missing in a tree from which a record is read. -/
theorem Holds.complete (holds : r.Holds fields) {t : Tree} {a : α} (read : r.reader title t = .ok a) :
    t.Complete := by
  have checks : ∀ f ∈ r.fields, ∀ t, f.check t = .ok () → t.Complete := by
    intro f mem t checked
    obtain ⟨_, reads⟩ := exists_of_checks holds.checks mem
    exact reads.complete checked
  unfold reader at read
  split at read
  · next ms e =>
    have whole : r.reader title (.object ms e) = .ok a := read
    obtain ⟨passes, _, rfl, _⟩ := reader_object_iff.mp whole
    refine .object (fun m mem => ?_) fun m mem => ?_
    · obtain ⟨name, named, _⟩ := (passes m mem).value
      exact Quoted.isClosed_of_read named
    · obtain ⟨name, named, value⟩ := (passes m mem).value
      split at value
      · next f field => exact checks f (List.mem_of_find?_eq_some field) m.2 value
      · exact value
  · next ts e =>
    obtain ⟨found, gone, _⟩ := exists_of_bind_eq_ok read
    obtain ⟨all, rfl⟩ := complete_of_positions checks gone
    exact .list all
  · exact absurd read (wrongKind_ne_ok _ _ _)

end Reader

end Record

/-- **A record is read from trees of its shape.** -/
theorem Reads.record {α : Type} {r : Record α} {fields : List (String × Shape)} (holds : r.Holds fields)
    (distinct : (fields.map (·.1)).Nodup) (title : String) : Reads (r.reader title) (.record fields) :=
  ⟨holds.moved distinct, holds.flawed distinct, holds.complete⟩

end BoxOffice.Json
