import BoxOffice.Proofs.Json.Extent
import BoxOffice.Proofs.Json.Fields
import BoxOffice.Proofs.Json.Tokens

/-!
# The members of an object that is read as a record

* `Tree.skip_eq_ok_iff` -- what can be passed over are exactly the complete trees;
* `Record.Passes`, `Record.known` -- what a member has to pass, and what is kept of the members;
* `Record.members_eq_ok_iff` -- the members are gone through if, and only if, all pass and no name of a field occurs
  twice; what is found are those of the fields;
* `Record.reader_object_iff` -- so a record is read from an object.
-/

namespace BoxOffice.Json

/-! ## 1. Results that only have to be there -/

/-- A check and what comes after it succeed if both do. -/
theorem bind_unit_eq_ok_iff {ε α : Type} {x : Except ε Unit} {f : Unit → Except ε α} {a : α} :
    (x >>= f) = .ok a ↔ x = .ok () ∧ f () = .ok a := by
  constructor
  · intro h
    obtain ⟨u, checked, rest⟩ := exists_of_bind_eq_ok h
    exact ⟨checked, rest⟩
  · rintro ⟨rfl, rest⟩
    exact rest

theorem ok_bind {ε α β : Type} (a : α) (f : α → Except ε β) : (Except.ok a >>= f) = f a := rfl

@[simp] theorem here_eq_ok_iff {α : Type} {r : Except Fault α} {a : α} : here r = .ok a ↔ r = .ok a := by
  cases r with
  | error f => exact ⟨(fun h => by cases h), (fun h => by cases h)⟩
  | ok b => exact ⟨(fun h => by cases h; rfl), (fun h => by cases h; rfl)⟩

@[simp] theorem under_eq_ok_iff {α : Type} {s : Step} {r : Except Problem α} {a : α} :
    under s r = .ok a ↔ r = .ok a := by
  cases r with
  | error p => exact ⟨(fun h => by cases h), (fun h => by cases h)⟩
  | ok b => exact ⟨(fun h => by cases h; rfl), (fun h => by cases h; rfl)⟩

theorem map_eq_ok_iff {ε α β : Type} {f : α → β} {r : Except ε α} {b : β} :
    r.map f = .ok b ↔ ∃ a, r = .ok a ∧ f a = b := by
  cases r with
  | error e => exact ⟨(fun h => by cases h), (fun ⟨_, h, _⟩ => by cases h)⟩
  | ok a =>
    constructor
    · intro h
      cases h
      exact ⟨a, rfl, rfl⟩
    · rintro ⟨a', h, rfl⟩
      cases h
      rfl

/-! ## 2. Values that nobody asked for -/

/-- A quoted text can be passed over if it ends at its mark. -/
theorem Quoted.skip_eq_ok_iff (q : Quoted) : q.skip = .ok () ↔ q.isClosed = true := by
  obtain ⟨ps, e⟩ := q
  cases e <;> exact ⟨(fun h => by cases h <;> rfl), (fun h => by cases h <;> rfl)⟩

/-- What can be read ends at its mark. -/
theorem Quoted.isClosed_of_read {q : Quoted} {s : String} (h : q.read = .ok s) : q.isClosed = true :=
  (skip_eq_ok_iff q).mp (skip_of_read h)

namespace Tree

theorem skipItems_eq_ok_iff : ∀ ts : List Tree, skipItems ts = .ok () ↔ ∀ t ∈ ts, t.skip = .ok ()
  | [] => ⟨(fun _ _ h => by cases h), fun _ => rfl⟩
  | t :: ts => by
    rw [skipItems, bind_unit_eq_ok_iff, skipItems_eq_ok_iff ts, List.forall_mem_cons]

theorem skipMembers_eq_ok_iff : ∀ ms : List (Quoted × Tree),
    skipMembers ms = .ok () ↔ ∀ m ∈ ms, m.1.isClosed = true ∧ m.2.skip = .ok ()
  | [] => ⟨(fun _ _ h => by cases h), fun _ => rfl⟩
  | (k, t) :: ms => by
    rw [skipMembers, skipMember, bind_unit_eq_ok_iff, bind_unit_eq_ok_iff, skipMembers_eq_ok_iff ms,
      Quoted.skip_eq_ok_iff, List.forall_mem_cons]

theorem faultInSkipped?_of_list {e : ListEnd} : e.faultInSkipped? = none ↔ e = .closed := by
  cases e <;> exact ⟨(fun h => by cases h <;> rfl), (fun h => by cases h <;> rfl)⟩

theorem faultInSkipped?_of_object {e : ObjectEnd} : e.faultInSkipped? = none ↔ e = .closed := by
  cases e <;> exact ⟨(fun h => by cases h <;> rfl), (fun h => by cases h <;> rfl)⟩

/-- A complete tree can be passed over. -/
theorem Complete.skip {t : Tree} (complete : t.Complete) : t.skip = .ok () := by
  induction complete with
  | null | boolean | number => rfl
  | @text q closed => exact q.skip_eq_ok_iff.mpr closed
  | @list items all ih =>
    rw [Tree.skip, bind_unit_eq_ok_iff, skipItems_eq_ok_iff]
    exact ⟨ih, rfl⟩
  | @object members keys values ih =>
    rw [Tree.skip, bind_unit_eq_ok_iff, skipMembers_eq_ok_iff]
    exact ⟨fun m h => ⟨keys m h, ih m h⟩, rfl⟩

mutual

/-- And nothing else can. -/
theorem complete_of_skip : ∀ t : Tree, t.skip = .ok () → t.Complete
  | .null, _ => .null
  | .boolean b, _ => .boolean b
  | .number n, _ => .number n
  | .text q, h => .text (q.skip_eq_ok_iff.mp h)
  | .list items e, h => by
    rw [skip, bind_unit_eq_ok_iff, unlessFault_eq_ok, faultInSkipped?_of_list] at h
    obtain ⟨all, rfl⟩ := h
    exact .list (complete_of_skipItems items all)
  | .object members e, h => by
    rw [skip, bind_unit_eq_ok_iff, unlessFault_eq_ok, faultInSkipped?_of_object] at h
    obtain ⟨all, rfl⟩ := h
    exact .object (fun m mem => ((skipMembers_eq_ok_iff members).mp all m mem).1) (complete_of_skipMembers members all)
  | .broken b, h => by cases h

theorem complete_of_skipItems : ∀ ts : List Tree, skipItems ts = .ok () → ∀ t ∈ ts, t.Complete
  | u :: ts, h, t, mem => by
    rw [skipItems, bind_unit_eq_ok_iff] at h
    rcases List.mem_cons.mp mem with same | mem
    · exact same ▸ complete_of_skip u h.1
    · exact complete_of_skipItems ts h.2 t mem

theorem complete_of_skipMembers : ∀ ms : List (Quoted × Tree), skipMembers ms = .ok () → ∀ m ∈ ms, m.2.Complete
  | (k, u) :: ms, h, m, mem => by
    rw [skipMembers, skipMember, bind_unit_eq_ok_iff, bind_unit_eq_ok_iff] at h
    rcases List.mem_cons.mp mem with same | mem
    · exact same ▸ complete_of_skip u h.1.2
    · exact complete_of_skipMembers ms h.2 m mem

end

/-- **What can be passed over are exactly the complete trees.** -/
theorem skip_eq_ok_iff (t : Tree) : t.skip = .ok () ↔ t.Complete :=
  ⟨complete_of_skip t, Complete.skip⟩

/-- No complete tree stands for a missing colon. -/
theorem Complete.colonFault? {t : Tree} (complete : t.Complete) : t.colonFault? = none := by
  cases complete <;> rfl

end Tree

/-! ## 3. Going through members -/

namespace Record

/-- **What a member has to pass**: its name is readable, and its value passes the check of the field of that name, or
    is complete if there is none. -/
structure Passes (fields : List Field) (m : Quoted × Tree) : Prop where
  colon : m.2.colonFault? = none
  value : ∃ name, m.1.read = .ok name ∧
    match fields.find? (·.name == name) with
    | some f => f.check m.2 = .ok ()
    | none => m.2.Complete

/-- The value of a member under its name, if a field has that name. -/
def known? (fields : List Field) (m : Quoted × Tree) : Option (String × Tree) :=
  match m.1.read with
  | .ok name => (fields.find? (·.name == name)).map fun _ => (name, m.2)
  | .error _ => none

/-- **What is kept of members**: the values of those that have the name of a field. -/
def known (fields : List Field) (ms : List (Quoted × Tree)) : List (String × Tree) := ms.filterMap (known? fields)

variable {fields : List Field} {found all : List (String × Tree)} {k : Quoted} {t : Tree} {name : String}
  {ms : List (Quoted × Tree)}

theorem known?_of_field {f : Field} (named : k.read = .ok name) (field : fields.find? (·.name == name) = some f) :
    known? fields (k, t) = some (name, t) := by
  simp only [known?, named, field, Option.map_some]

theorem known?_of_unknown (named : k.read = .ok name) (unknown : fields.find? (·.name == name) = none) :
    known? fields (k, t) = none := by
  simp only [known?, named, unknown, Option.map_none]

theorem passes_iff_of_field {f : Field} (named : k.read = .ok name)
    (field : fields.find? (·.name == name) = some f) :
    Passes fields (k, t) ↔ t.colonFault? = none ∧ f.check t = .ok () := by
  constructor
  · rintro ⟨colon, name', named', value⟩
    cases named.symm.trans named'
    rw [field] at value
    exact ⟨colon, value⟩
  · rintro ⟨colon, value⟩
    exact ⟨colon, name, named, by rw [field]; exact value⟩

theorem passes_iff_of_unknown (named : k.read = .ok name) (unknown : fields.find? (·.name == name) = none) :
    Passes fields (k, t) ↔ t.Complete := by
  constructor
  · rintro ⟨_, name', named', value⟩
    cases named.symm.trans named'
    rwa [unknown] at value
  · intro complete
    exact ⟨complete.colonFault?, name, named, by rw [unknown]; exact complete⟩

/-- Going past a member of a field. -/
theorem members_cons_field {f : Field} (named : k.read = .ok name)
    (field : fields.find? (·.name == name) = some f) : members fields found ((k, t) :: ms) = .ok all ↔
      found.lookup name = none ∧ Passes fields (k, t) ∧ members fields (found ++ [(name, t)]) ms = .ok all := by
  have read : here k.read = .ok name := here_eq_ok_iff.mpr named
  rw [passes_iff_of_field named field, members, read, ok_bind]
  simp only [field]
  cases new : found.lookup name with
  | some u => exact ⟨(fun h => by cases h), (fun h => by cases h.1)⟩
  | none =>
    rw [Option.isSome_none, if_neg Bool.false_ne_true, bind_unit_eq_ok_iff, bind_unit_eq_ok_iff, here_eq_ok_iff,
      unlessFault_eq_ok, under_eq_ok_iff]
    constructor
    · rintro ⟨colon, checked, rest⟩
      exact ⟨rfl, ⟨colon, checked⟩, rest⟩
    · rintro ⟨_, ⟨colon, checked⟩, rest⟩
      exact ⟨colon, checked, rest⟩

/-- Going past any other one. -/
theorem members_cons_unknown (named : k.read = .ok name) (unknown : fields.find? (·.name == name) = none) :
    members fields found ((k, t) :: ms) = .ok all ↔ Passes fields (k, t) ∧ members fields found ms = .ok all := by
  have read : here k.read = .ok name := here_eq_ok_iff.mpr named
  rw [passes_iff_of_unknown named unknown, members, read, ok_bind]
  simp only [unknown]
  rw [bind_unit_eq_ok_iff, bind_unit_eq_ok_iff, here_eq_ok_iff, unlessFault_eq_ok, under_eq_ok_iff, here_eq_ok_iff,
    Tree.skip_eq_ok_iff]
  constructor
  · rintro ⟨_, complete, rest⟩
    exact ⟨complete, rest⟩
  · rintro ⟨complete, rest⟩
    exact ⟨complete.colonFault?, complete, rest⟩

/-- **Members are gone through if all of them pass and no name of a field occurs twice**; what is found are those of
    the fields, after what was found before. -/
theorem members_eq_ok_iff : ∀ {ms : List (Quoted × Tree)} {found : List (String × Tree)},
    members fields found ms = .ok all ↔ (∀ m ∈ ms, Passes fields m) ∧ ((known fields ms).map (·.1)).Nodup ∧
      (∀ p ∈ known fields ms, found.lookup p.1 = none) ∧ all = found ++ known fields ms
  | [], found => by
    rw [members, known, List.filterMap_nil, List.append_nil, Except.ok.injEq]
    constructor
    · intro same
      exact ⟨List.forall_mem_nil _, List.nodup_nil, List.forall_mem_nil _, same.symm⟩
    · rintro ⟨_, _, _, same⟩
      exact same.symm
  | (k, t) :: ms, found => by
    rw [List.forall_mem_cons]
    cases named : k.read with
    | error fault =>
      have no : members fields found ((k, t) :: ms) = .error (.here fault) := by
        rw [members, named]
        rfl
      rw [no]
      refine ⟨(fun h => by cases h), ?_⟩
      rintro ⟨⟨passes, _⟩, _⟩
      obtain ⟨name, named', _⟩ := passes.value
      cases named.symm.trans named'
    | ok name =>
      cases field : fields.find? (·.name == name) with
      | none =>
        have same : known fields ((k, t) :: ms) = known fields ms :=
          List.filterMap_cons_none (known?_of_unknown named field)
        rw [members_cons_unknown named field, members_eq_ok_iff, same, and_assoc]
      | some f =>
        have more : known fields ((k, t) :: ms) = (name, t) :: known fields ms :=
          List.filterMap_cons_some (known?_of_field named field)
        rw [members_cons_field named field, members_eq_ok_iff, more, List.map_cons, List.nodup_cons,
          List.forall_mem_cons, List.append_assoc]
        have fresh : (∀ p ∈ known fields ms, (found ++ [(name, t)]).lookup p.1 = none) ↔
            name ∉ (known fields ms).map (·.1) ∧ ∀ p ∈ known fields ms, found.lookup p.1 = none := by
          constructor
          · intro new
            refine ⟨fun mem => ?_, fun p mem => ?_⟩
            · obtain ⟨p, mem, same⟩ := List.mem_map.mp mem
              exact absurd (lookup_concat_eq_none_iff.mp (new p mem)).1 (not_not_intro same)
            · exact (lookup_concat_eq_none_iff.mp (new p mem)).2
          · rintro ⟨other, new⟩ p mem
            exact lookup_concat_eq_none_iff.mpr
              ⟨fun same => other (same ▸ List.mem_map_of_mem mem), new p mem⟩
        rw [fresh]
        constructor
        · rintro ⟨new, here, rest, distinct, ⟨other, news⟩, same⟩
          exact ⟨⟨here, rest⟩, ⟨other, distinct⟩, ⟨new, news⟩, same⟩
        · rintro ⟨⟨here, rest⟩, ⟨other, distinct⟩, ⟨new, news⟩, same⟩
          exact ⟨new, here, rest, distinct, ⟨other, news⟩, same⟩

variable {α : Type} {r : Record α} {a : α}

/-- **A record is read from an object** if all members pass, no name of a field occurs twice, the object ends at its
    brace, and what was found makes up the record. -/
theorem reader_object_iff {title : String} {e : ObjectEnd} : r.reader title (.object ms e) = .ok a ↔
    (∀ m ∈ ms, Passes r.fields m) ∧ ((known r.fields ms).map (·.1)).Nodup ∧ e = .closed ∧
      r.build (known r.fields ms) = .ok a := by
  have ends : unlessFault e.fault? = .ok () ↔ e = .closed := by
    cases e <;> exact ⟨(fun h => by cases h <;> rfl), (fun h => by cases h <;> rfl)⟩
  constructor
  · intro read
    obtain ⟨found, gone, read⟩ := exists_of_bind_eq_ok read
    rw [bind_unit_eq_ok_iff, here_eq_ok_iff, ends] at read
    obtain ⟨passes, distinct, _, rfl⟩ := members_eq_ok_iff.mp gone
    exact ⟨passes, distinct, read⟩
  · rintro ⟨passes, distinct, closed, built⟩
    have gone : members r.fields [] ms = .ok (known r.fields ms) :=
      members_eq_ok_iff.mpr ⟨passes, distinct, fun _ _ => rfl, rfl⟩
    rw [reader, gone, ok_bind, bind_unit_eq_ok_iff, here_eq_ok_iff, ends]
    exact ⟨closed, built⟩

/-- **A member that nobody asked for changes nothing**, wherever it stands, as long as its value is complete. -/
theorem reader_unknown_iff {before after : List (Quoted × Tree)} {title : String} {e : ObjectEnd}
    (named : k.read = .ok name) (unknown : r.fields.find? (·.name == name) = none) :
    r.reader title (.object (before ++ (k, t) :: after) e) = .ok a ↔
      t.Complete ∧ r.reader title (.object (before ++ after) e) = .ok a := by
  have same : known r.fields (before ++ (k, t) :: after) = known r.fields (before ++ after) := by
    rw [known, known, List.filterMap_append, List.filterMap_append,
      List.filterMap_cons_none (known?_of_unknown named unknown)]
  rw [reader_object_iff, reader_object_iff, same, List.forall_mem_append, List.forall_mem_append,
    List.forall_mem_cons, passes_iff_of_unknown named unknown]
  constructor
  · rintro ⟨⟨left, complete, right⟩, rest⟩
    exact ⟨complete, ⟨left, right⟩, rest⟩
  · rintro ⟨complete, ⟨left, right⟩, rest⟩
    exact ⟨⟨left, complete, right⟩, rest⟩

/-- What is kept of members around one of a field. -/
theorem known_around {f : Field} {before after : List (Quoted × Tree)} (named : k.read = .ok name)
    (field : fields.find? (·.name == name) = some f) (t : Tree) :
    known fields (before ++ (k, t) :: after) = known fields before ++ (name, t) :: known fields after := by
  rw [known, List.filterMap_append, List.filterMap_cons_some (known?_of_field named field)]
  rfl

/-- What is kept stands under its name among the members. -/
theorem exists_of_mem_known (mem : (name, t) ∈ known fields ms) : ∃ k, (k, t) ∈ ms ∧ k.read = .ok name := by
  obtain ⟨⟨k, u⟩, member, kept⟩ := List.mem_filterMap.mp mem
  unfold known? at kept
  split at kept
  · next named =>
    obtain ⟨f, _, same⟩ := Option.map_eq_some_iff.mp kept
    cases same
    exact ⟨k, member, named⟩
  · cases kept

end Record

end BoxOffice.Json
