/-!
# Tables

A `Table α` holds values under 64-bit keys. Its entries stand in strictly ascending order of their
keys, so that two tables with the same entries are equal and `values` lists them by key.

* `get?`, `insert`, `erase`, `modify`, `values` -- the operations;
* `get?_insert_self`, `get?_insert_of_ne`, `get?_erase_self`, `get?_erase_of_ne`, `get?_modify_self`,
  `get?_modify_of_ne` -- what each of them does to a look-up;
* `ext_get?` -- tables that answer all look-ups alike are equal;
* `mem_values_iff` -- the values are what look-ups find; `length_values_insert` -- how many there are after
  one is put in.
-/

namespace BoxOffice

/-- Values under keys, in strictly ascending order of the keys. -/
structure Table (α : Type) where
  entries : List (Int64 × α)
  ascending : entries.Pairwise fun a b => a.1 < b.1

namespace Table

variable {α : Type}

/-! ## 1. Operations -/

/-- The table without entries. -/
def empty : Table α := ⟨[], .nil⟩

instance : Inhabited (Table α) := ⟨empty⟩

/-- The value under a key. -/
def get? (t : Table α) (k : Int64) : Option α := t.entries.lookup k

/-- There is a value under the key. -/
def contains (t : Table α) (k : Int64) : Bool := (t.get? k).isSome

/-- The values by ascending key. -/
def values (t : Table α) : List α := t.entries.map (·.2)

/-- The keys, ascending. -/
def keys (t : Table α) : List Int64 := t.entries.map (·.1)

/-- An entry put in its place, or in place of the one under its key. -/
def putEntry (k : Int64) (a : α) : List (Int64 × α) → List (Int64 × α)
  | [] => [(k, a)]
  | e :: es =>
    if k < e.1 then (k, a) :: e :: es
    else if k = e.1 then (k, a) :: es
    else e :: putEntry k a es

theorem mem_putEntry {k : Int64} {a : α} {x : Int64 × α} : ∀ {es : List (Int64 × α)},
    x ∈ putEntry k a es → x = (k, a) ∨ x ∈ es
  | [], h => Or.inl (List.mem_singleton.mp h)
  | e :: es, h => by
    unfold putEntry at h
    split at h
    · rcases List.mem_cons.mp h with h | h
      · exact Or.inl h
      · exact Or.inr h
    · split at h
      · rcases List.mem_cons.mp h with h | h
        · exact Or.inl h
        · exact Or.inr (List.mem_cons_of_mem _ h)
      · rcases List.mem_cons.mp h with h | h
        · exact Or.inr (h ▸ List.mem_cons_self)
        · rcases mem_putEntry h with h | h
          · exact Or.inl h
          · exact Or.inr (List.mem_cons_of_mem _ h)

theorem lt_of_not_lt_of_ne {a b : Int64} (h : ¬ a < b) (hne : a ≠ b) : b < a := by
  rw [Int64.lt_iff_toInt_lt] at h ⊢
  have : a.toInt ≠ b.toInt := fun e => hne (Int64.toInt_inj.mp e)
  omega

theorem putEntry_ascending (k : Int64) (a : α) : ∀ {es : List (Int64 × α)},
    es.Pairwise (fun x y => x.1 < y.1) → (putEntry k a es).Pairwise (fun x y => x.1 < y.1)
  | [], _ => List.pairwise_singleton _ _
  | e :: es, h => by
    have hall := (List.pairwise_cons.mp h).1
    have htail := (List.pairwise_cons.mp h).2
    unfold putEntry
    split
    · next hlt =>
      refine List.pairwise_cons.mpr ⟨fun x hx => ?_, h⟩
      rcases List.mem_cons.mp hx with rfl | hx
      · exact hlt
      · exact Int64.lt_trans hlt (hall x hx)
    · next hnlt =>
      split
      · next heq =>
        exact List.pairwise_cons.mpr ⟨fun x hx => heq ▸ hall x hx, htail⟩
      · next hne =>
        refine List.pairwise_cons.mpr ⟨fun x hx => ?_, putEntry_ascending k a htail⟩
        rcases mem_putEntry hx with rfl | hx
        · exact lt_of_not_lt_of_ne hnlt hne
        · exact hall x hx

/-- The table with `a` under the key `k`. -/
def insert (t : Table α) (k : Int64) (a : α) : Table α :=
  ⟨putEntry k a t.entries, putEntry_ascending k a t.ascending⟩

/-- The table without the key `k`. -/
def erase (t : Table α) (k : Int64) : Table α :=
  ⟨t.entries.filter fun e => e.1 ≠ k, t.ascending.filter _⟩

/-- One entry, changed if its key is `k`. -/
def modifyEntry (k : Int64) (f : α → α) (e : Int64 × α) : Int64 × α :=
  (e.1, if e.1 = k then f e.2 else e.2)

/-- The table with the value under `k`, if there is one, changed by `f`. -/
def modify (t : Table α) (k : Int64) (f : α → α) : Table α :=
  ⟨t.entries.map (modifyEntry k f), t.ascending.map _ fun _ _ h => h⟩

/-- The table with the given entries put in one after the other. -/
def ofList (es : List (Int64 × α)) : Table α :=
  es.foldl (fun t e => t.insert e.1 e.2) empty

/-! ## 2. What the operations do to a look-up -/

@[simp] theorem get?_empty (k : Int64) : (empty : Table α).get? k = none := rfl

@[simp] theorem values_empty : (empty : Table α).values = [] := rfl

theorem lookup_cons_key (e : Int64 × α) (es : List (Int64 × α)) :
    (e :: es).lookup e.1 = some e.2 := List.lookup_cons_self

theorem lookup_cons_of_ne {k : Int64} {e : Int64 × α} (h : k ≠ e.1) (es : List (Int64 × α)) :
    (e :: es).lookup k = es.lookup k := by
  rw [List.lookup_cons, beq_false_of_ne h]

theorem lookup_putEntry_self (k : Int64) (a : α) : ∀ es : List (Int64 × α),
    (putEntry k a es).lookup k = some a
  | [] => by simp [putEntry]
  | e :: es => by
    unfold putEntry
    split
    · simp
    · split
      · simp
      · next hne =>
        rw [lookup_cons_of_ne hne]
        exact lookup_putEntry_self k a es

theorem lookup_putEntry_of_ne {k k' : Int64} (h : k' ≠ k) (a : α) : ∀ es : List (Int64 × α),
    (putEntry k a es).lookup k' = es.lookup k'
  | [] => by
    rw [putEntry, List.lookup_cons, beq_false_of_ne h]
  | e :: es => by
    unfold putEntry
    split
    · rw [List.lookup_cons, beq_false_of_ne h]
    · split
      · next heq =>
        rw [List.lookup_cons, List.lookup_cons, beq_false_of_ne h, ← heq, beq_false_of_ne h]
      · rw [List.lookup_cons, List.lookup_cons]
        split
        · rfl
        · exact lookup_putEntry_of_ne h a es

/-- What was put in is found. -/
@[simp] theorem get?_insert_self (t : Table α) (k : Int64) (a : α) :
    (t.insert k a).get? k = some a :=
  lookup_putEntry_self k a t.entries

/-- Putting in leaves the other keys alone. -/
theorem get?_insert_of_ne (t : Table α) {k k' : Int64} (h : k' ≠ k) (a : α) :
    (t.insert k a).get? k' = t.get? k' :=
  lookup_putEntry_of_ne h a t.entries

/-- What was taken out is not found. -/
@[simp] theorem get?_erase_self (t : Table α) (k : Int64) : (t.erase k).get? k = none := by
  change (t.entries.filter fun e => e.1 ≠ k).lookup k = none
  rw [List.lookup_eq_none_iff]
  intro e he
  have hne : e.1 ≠ k := of_decide_eq_true (List.mem_filter.mp he).2
  simpa using hne.symm

/-- Taking out leaves the other keys alone. -/
theorem get?_erase_of_ne (t : Table α) {k k' : Int64} (h : k' ≠ k) :
    (t.erase k).get? k' = t.get? k' := by
  change (t.entries.filter fun e => e.1 ≠ k).lookup k' = t.entries.lookup k'
  induction t.entries with
  | nil => rfl
  | cons e es ih =>
    by_cases hk : e.1 = k
    · rw [List.filter_cons_of_neg (by simp [hk]), lookup_cons_of_ne (hk ▸ h), ih]
    · rw [List.filter_cons_of_pos (by simp [hk])]
      by_cases hk' : k' = e.1
      · rw [hk', lookup_cons_key, lookup_cons_key]
      · rw [lookup_cons_of_ne hk', lookup_cons_of_ne hk', ih]

/-- What is found after taking out was there before. -/
theorem get?_of_get?_erase {t : Table α} {k k' : Int64} {a : α} (h : (t.erase k).get? k' = some a) :
    t.get? k' = some a := by
  by_cases e : k' = k
  · rw [e, get?_erase_self] at h
    cases h
  · rwa [get?_erase_of_ne t e] at h

/-- A change reaches the value under its key. -/
@[simp] theorem get?_modify_self (t : Table α) (k : Int64) (f : α → α) :
    (t.modify k f).get? k = (t.get? k).map f := by
  change (t.entries.map (modifyEntry k f)).lookup k = (t.entries.lookup k).map f
  induction t.entries with
  | nil => rfl
  | cons e es ih =>
    rw [List.map_cons]
    by_cases h : e.1 = k
    · have hm : modifyEntry k f e = (k, f e.2) := by simp [modifyEntry, h]
      rw [hm, ← h, lookup_cons_key]
      exact lookup_cons_key (e.1, f e.2) _
    · have hm : modifyEntry k f e = e := by simp [modifyEntry, h]
      rw [hm, lookup_cons_of_ne (Ne.symm h), lookup_cons_of_ne (Ne.symm h), ih]

/-- A change leaves the other keys alone. -/
theorem get?_modify_of_ne (t : Table α) {k k' : Int64} (h : k' ≠ k) (f : α → α) :
    (t.modify k f).get? k' = t.get? k' := by
  change (t.entries.map (modifyEntry k f)).lookup k' = t.entries.lookup k'
  induction t.entries with
  | nil => rfl
  | cons e es ih =>
    rw [List.map_cons]
    by_cases hk' : k' = e.1
    · have hm : modifyEntry k f e = e := by simp [modifyEntry, hk' ▸ h]
      rw [hm, hk', lookup_cons_key, lookup_cons_key]
    · rw [lookup_cons_of_ne (e := modifyEntry k f e) hk', lookup_cons_of_ne hk', ih]

/-! ## 3. Extensionality -/

theorem lookup_eq_none_of_lt {k : Int64} {es : List (Int64 × α)}
    (h : ∀ e ∈ es, k < e.1) : es.lookup k = none := by
  rw [List.lookup_eq_none_iff]
  intro e he
  have hlt := h e he
  have hne : k ≠ e.1 := fun heq => Int64.lt_irrefl (heq ▸ hlt)
  simpa using hne

theorem entries_ext : ∀ {as bs : List (Int64 × α)},
    as.Pairwise (fun x y => x.1 < y.1) → bs.Pairwise (fun x y => x.1 < y.1) →
    (∀ k, as.lookup k = bs.lookup k) → as = bs
  | [], [], _, _, _ => rfl
  | [], b :: bs, _, _, h => by
    have hb := h b.1
    rw [List.lookup_cons_self] at hb
    cases hb
  | a :: as, [], _, _, h => by
    have ha := h a.1
    rw [List.lookup_cons_self] at ha
    cases ha
  | a :: as, b :: bs, ha, hb, h => by
    have ha1 := List.pairwise_cons.mp ha
    have hb1 := List.pairwise_cons.mp hb
    have hkey : a.1 = b.1 := by
      by_cases heq : a.1 = b.1
      · exact heq
      · exfalso
        by_cases hlt : a.1 < b.1
        · have h1 := h a.1
          rw [List.lookup_cons_self, lookup_eq_none_of_lt] at h1
          · cases h1
          · intro e he
            rcases List.mem_cons.mp he with rfl | he
            · exact hlt
            · exact Int64.lt_trans hlt (hb1.1 e he)
        · have hlt' := lt_of_not_lt_of_ne hlt heq
          have h1 := h b.1
          rw [List.lookup_cons_self, lookup_eq_none_of_lt] at h1
          · cases h1
          · intro e he
            rcases List.mem_cons.mp he with rfl | he
            · exact hlt'
            · exact Int64.lt_trans hlt' (ha1.1 e he)
    have hval : a.2 = b.2 := by
      have h1 := h a.1
      rw [List.lookup_cons_self, hkey, List.lookup_cons_self] at h1
      exact Option.some.inj h1
    have htail : as = bs := by
      refine entries_ext ha1.2 hb1.2 fun k => ?_
      by_cases hk : k = a.1
      · subst hk
        rw [lookup_eq_none_of_lt ha1.1, hkey, lookup_eq_none_of_lt hb1.1]
      · have h1 := h k
        rw [List.lookup_cons, List.lookup_cons, beq_false_of_ne hk,
          beq_false_of_ne (hkey ▸ hk)] at h1
        exact h1
    rw [htail, Prod.ext hkey hval]

/-- **Tables that answer all look-ups alike are equal.** -/
theorem ext_get? {s t : Table α} (h : ∀ k, s.get? k = t.get? k) : s = t := by
  obtain ⟨es, hs⟩ := s
  obtain ⟨es', ht⟩ := t
  have : es = es' := entries_ext hs ht h
  subst this
  rfl

/-! ## 4. Entries and look-ups -/

theorem mem_of_lookup {k : Int64} {a : α} : ∀ {es : List (Int64 × α)},
    es.lookup k = some a → (k, a) ∈ es
  | [], h => by cases h
  | e :: es, h => by
    by_cases hk : k = e.1
    · rw [hk, lookup_cons_key] at h
      cases h
      exact hk ▸ List.mem_cons_self
    · rw [lookup_cons_of_ne hk] at h
      exact List.mem_cons_of_mem _ (mem_of_lookup h)

theorem lookup_of_mem {k : Int64} {a : α} : ∀ {es : List (Int64 × α)},
    es.Pairwise (fun x y => x.1 < y.1) → (k, a) ∈ es → es.lookup k = some a
  | [], _, h => by cases h
  | e :: es, hp, h => by
    have hlt := List.pairwise_cons.mp hp
    rcases List.mem_cons.mp h with rfl | h
    · exact lookup_cons_key (k, a) es
    · have hne : k ≠ e.1 := fun heq => Int64.lt_irrefl (heq ▸ hlt.1 _ h)
      rw [lookup_cons_of_ne hne]
      exact lookup_of_mem hlt.2 h

/-- The values of a table are what look-ups find. -/
theorem mem_values_iff (t : Table α) (a : α) : a ∈ t.values ↔ ∃ k, t.get? k = some a := by
  constructor
  · intro h
    obtain ⟨e, he, rfl⟩ := List.mem_map.mp h
    exact ⟨e.1, lookup_of_mem t.ascending he⟩
  · rintro ⟨k, h⟩
    exact List.mem_map.mpr ⟨(k, a), mem_of_lookup h, rfl⟩

theorem length_putEntry (k : Int64) (a : α) {es : List (Int64 × α)}
    (h : es.Pairwise (fun x y => x.1 < y.1)) :
    (putEntry k a es).length = es.length + if (es.lookup k).isSome then 0 else 1 := by
  induction es with
  | nil => rfl
  | cons e es ih =>
    have tail := List.pairwise_cons.mp h
    unfold putEntry
    split
    · next less =>
      have absent : (e :: es).lookup k = none := by
        refine lookup_eq_none_of_lt fun x hx => ?_
        rcases List.mem_cons.mp hx with rfl | hx
        · exact less
        · exact Int64.lt_trans less (tail.1 x hx)
      rw [absent]
      rfl
    · split
      · next same =>
        rw [same, lookup_cons_key]
        rfl
      · next other =>
        rw [List.length_cons, ih tail.2, lookup_cons_of_ne other, List.length_cons]
        omega

/-- Putting in adds a value, unless it takes the place of one. -/
theorem length_values_insert (t : Table α) (k : Int64) (a : α) :
    (t.insert k a).values.length = t.values.length + if t.contains k then 0 else 1 := by
  rw [values, values, List.length_map, List.length_map]
  exact length_putEntry k a t.ascending

end Table

end BoxOffice
