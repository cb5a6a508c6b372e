import BoxOffice.Json.Record

/-!
# A tree is no larger than its text

* `Tree.extent` -- the number of values in a tree;
* `extent_step` -- a token brings one value at most, wherever the reading stands;
* `extent_ofText` -- so a tree holds at most as many values as its text has characters, and one more;
* `length_of_list`, `Record.extent_of_reader` -- and no list read off it is longer.
-/

namespace BoxOffice.Json

/-! ## 1. The number of values -/

mutual

/-- **The number of values in a tree**, itself included. -/
def Tree.extent : Tree → Nat
  | .null | .boolean _ | .number _ | .text _ | .broken _ => 1
  | .list items _ => 1 + Tree.itemsExtent items
  | .object members _ => 1 + Tree.membersExtent members

/-- The number of values in items. -/
def Tree.itemsExtent : List Tree → Nat
  | [] => 0
  | t :: ts => t.extent + Tree.itemsExtent ts

/-- The number of values in members. -/
def Tree.membersExtent : List (Quoted × Tree) → Nat
  | [] => 0
  | m :: ms => Tree.memberExtent m + Tree.membersExtent ms

/-- The number of values in a member. -/
def Tree.memberExtent : Quoted × Tree → Nat
  | (_, t) => t.extent

end

namespace Tree

theorem extent_pos (t : Tree) : 1 ≤ t.extent := by
  cases t <;> simp only [extent] <;> omega

theorem itemsExtent_append (us : List Tree) : ∀ ts : List Tree,
    itemsExtent (ts ++ us) = itemsExtent ts + itemsExtent us
  | [] => by simp [itemsExtent]
  | t :: ts => by
    rw [List.cons_append, itemsExtent, itemsExtent, itemsExtent_append us ts, Nat.add_assoc]

theorem itemsExtent_reverse : ∀ ts : List Tree, itemsExtent ts.reverse = itemsExtent ts
  | [] => rfl
  | t :: ts => by
    rw [List.reverse_cons, itemsExtent_append, itemsExtent_reverse ts]
    simp only [itemsExtent]
    omega

theorem membersExtent_append (ns : List (Quoted × Tree)) : ∀ ms : List (Quoted × Tree),
    membersExtent (ms ++ ns) = membersExtent ms + membersExtent ns
  | [] => by simp [membersExtent]
  | m :: ms => by
    rw [List.cons_append, membersExtent, membersExtent, membersExtent_append ns ms, Nat.add_assoc]

theorem membersExtent_reverse : ∀ ms : List (Quoted × Tree),
    membersExtent ms.reverse = membersExtent ms
  | [] => rfl
  | m :: ms => by
    rw [List.reverse_cons, membersExtent_append, membersExtent_reverse ms]
    simp only [membersExtent]
    omega

/-- A list has no more items than values. -/
theorem length_le_itemsExtent : ∀ ts : List Tree, ts.length ≤ itemsExtent ts
  | [] => Nat.le_refl _
  | t :: ts => by
    have here := extent_pos t
    have rest := length_le_itemsExtent ts
    simp only [List.length_cons, itemsExtent]
    omega

/-- An item is no larger than all of them. -/
theorem extent_le_itemsExtent {t : Tree} : ∀ {ts : List Tree}, t ∈ ts → t.extent ≤ itemsExtent ts
  | u :: us, h => by
    rw [itemsExtent]
    rcases List.mem_cons.mp h with rfl | h
    · omega
    · have := extent_le_itemsExtent h
      omega

/-- A member's value is no larger than all members. -/
theorem extent_le_membersExtent {m : Quoted × Tree} : ∀ {ms : List (Quoted × Tree)}, m ∈ ms →
    m.2.extent ≤ membersExtent ms
  | n :: ns, h => by
    rw [membersExtent]
    rcases List.mem_cons.mp h with rfl | h
    · rw [memberExtent]
      omega
    · have := extent_le_membersExtent h
      omega

end Tree

/-! ## 2. Building brings one value for each token -/

open BoxOffice.Json.Tree

/-- The number of values in a list or an object that is not finished. -/
def Frame.extent : Frame → Nat
  | .list items => 1 + itemsExtent items
  | .object members _ => 1 + membersExtent members

/-- The number of values around the one that is being read. -/
def framesExtent : List Frame → Nat
  | [] => 0
  | f :: fs => f.extent + framesExtent fs

namespace Build

/-- The number of values read so far. -/
def extent : Build → Nat
  | .value around => framesExtent around
  | .firstItem around | .firstKey around => 1 + framesExtent around
  | .nextItem items around | .afterItem items around => 1 + itemsExtent items + framesExtent around
  | .nextKey members around | .colon members _ around | .afterMember members around =>
    1 + membersExtent members + framesExtent around
  | .complete t | .stopped t => t.extent

/-- A value that takes its place brings what it holds. -/
theorem extent_deliver (t : Tree) (around : List Frame) :
    (deliver t around).extent = t.extent + framesExtent around := by
  cases around with
  | nil => rfl
  | cons f fs =>
    cases f <;> simp only [deliver, extent, framesExtent, Frame.extent, itemsExtent, membersExtent,
      memberExtent] <;> omega

/-- So does a value that breaks off. -/
theorem extent_cut (t : Tree) (around : List Frame) :
    (cut t around).extent = t.extent + framesExtent around := by
  induction around generalizing t with
  | nil => rfl
  | cons f fs ih =>
    cases f <;> simp only [cut, ih, Tree.extent, framesExtent, Frame.extent, itemsExtent_reverse,
      membersExtent_reverse, itemsExtent, membersExtent, memberExtent] <;> omega

@[simp] theorem extent_stopped (t : Tree) : (Build.stopped t).extent = t.extent := rfl

theorem extent_endList (items : List Tree) (e : ListEnd) (around : List Frame) :
    (endList items e around).extent = 1 + itemsExtent items + framesExtent around := by
  cases e <;> simp only [endList, extent_deliver, extent_stopped, extent_cut, Tree.extent,
    itemsExtent_reverse]

theorem extent_endObject (members : List (Quoted × Tree)) (e : ObjectEnd) (around : List Frame) :
    (endObject members e around).extent = 1 + membersExtent members + framesExtent around := by
  cases e <;> simp only [endObject, extent_deliver, extent_stopped, extent_cut, Tree.extent,
    membersExtent_reverse]

/-- The first token of a value brings one value. -/
theorem extent_start (around : List Frame) (t : Token) :
    (start around t).extent = framesExtent around + 1 := by
  cases t with
  | quoted q =>
    simp only [start]
    split <;> simp only [extent_deliver, extent_stopped, extent_cut, Tree.extent] <;> omega
  | openList | openObject =>
    simp only [start, extent]
    omega
  | _ =>
    simp only [start, extent_deliver, extent_stopped, extent_cut, Tree.extent]
    omega

theorem extent_startKey (members : List (Quoted × Tree)) (q : Quoted) (around : List Frame) :
    (startKey members q around).extent ≤ 1 + membersExtent members + framesExtent around + 1 := by
  unfold startKey
  split
  · simp only [extent]
    omega
  · simp only [extent_stopped, extent_cut, Tree.extent, membersExtent_reverse, membersExtent,
      memberExtent]
    omega

/-- **A token brings one value at most.** -/
theorem extent_step (b : Build) (t : Token) : (b.step t).extent ≤ b.extent + 1 := by
  cases b with
  | value around =>
    rw [step, extent_start]
    exact Nat.le_refl _
  | firstItem around | nextItem items around =>
    cases t with
    | closeList =>
      rw [step, extent_endList]
      simp only [extent, itemsExtent]
      omega
    | _ =>
      simp only [step, extent_start]
      simp only [extent, framesExtent, Frame.extent, itemsExtent]
      omega
  | afterItem items around =>
    cases t <;> simp only [step, extent_endList] <;> simp only [extent] <;> omega
  | firstKey around | nextKey members around =>
    cases t with
    | quoted q => exact extent_startKey _ q around
    | _ =>
      simp only [step, extent_endObject]
      simp only [extent, membersExtent]
      omega
  | colon members key around =>
    cases t <;> simp only [step, extent_stopped, extent_cut] <;>
      simp only [extent, Tree.extent, framesExtent, Frame.extent] <;> omega
  | afterMember members around =>
    cases t <;> simp only [step, extent_endObject] <;> simp only [extent] <;> omega
  | complete t' | stopped t' => exact Nat.le_succ _

/-- The end of the input stands for one value at most. -/
theorem extent_finish (b : Build) : b.finish.extent ≤ b.extent + 1 := by
  cases b <;> simp only [finish, extent, extent_cut, Tree.extent, itemsExtent, membersExtent,
    itemsExtent_reverse, membersExtent_reverse, framesExtent, Frame.extent] <;> omega

theorem extent_run (b : Build) (ts : List Token) :
    (b.run ts).1.extent ≤ b.extent + ts.length + 1 := by
  fun_induction run b ts with
  | case1 t ts | case2 t ts =>
    simp only [extent]
    omega
  | case3 b => exact extent_finish b
  | case4 b t ts _ _ ih =>
    have one := extent_step b t
    rw [List.length_cons]
    omega

end Build

/-! ## 3. Texts -/

/-- A token takes at least one character. -/
theorem Token.length_scan_le (cs : List Char) : (Token.scan cs).length ≤ cs.length := by
  fun_induction Token.scan cs with
  | case1 => exact Nat.le_refl _
  | case2 c cs _ ih =>
    rw [List.length_cons]
    omega
  | case3 c cs _ ih =>
    have rest := Token.first_length_le c cs
    simp only [List.length_cons]
    omega

/-- A text has no more characters than bytes. -/
theorem length_le_utf8ByteSize (s : String) : s.toList.length ≤ s.utf8ByteSize := by
  have counted : ∀ cs : List Char, cs.length ≤ cs.utf8Encode.size := by
    intro cs
    induction cs with
    | nil => exact Nat.zero_le _
    | cons c cs ih =>
      have one := c.utf8Size_pos
      rw [List.utf8Encode_cons, ByteArray.size_append, List.utf8Encode_singleton,
        List.size_toByteArray, String.length_utf8EncodeChar, List.length_cons]
      omega
  have bytes := counted s.toList
  rwa [String.utf8Encode_toList] at bytes

/-- **A tree holds at most as many values as its text has bytes, and one more.** -/
theorem extent_ofText (s : String) : (Tree.ofText s).1.extent ≤ s.utf8ByteSize + 1 := by
  have built := Build.extent_run (.value []) (Token.scan s.toList)
  have tokens := Token.length_scan_le s.toList
  have chars := length_le_utf8ByteSize s
  have none : (Build.value []).extent = 0 := rfl
  rw [Tree.ofText, Tree.ofTokens]
  omega

/-! ## 4. What is read off a tree -/

/-- What a step and the rest after it give, both gave. -/
theorem exists_of_bind_eq_ok {ε α β : Type} {x : Except ε α} {f : α → Except ε β} {b : β}
    (h : (x >>= f) = .ok b) : ∃ a, x = .ok a ∧ f a = .ok b := by
  cases x with
  | error e => cases h
  | ok a => exact ⟨a, rfl, h⟩

section List

variable {α : Type} {r : Reader α}

theorem length_of_items : ∀ {ts : List Tree} {i : Nat} {as : List α}, items r i ts = .ok as →
    as.length = ts.length
  | [], _, _, h => by
    cases h
    rfl
  | t :: ts, i, as, h => by
    obtain ⟨a, _, h⟩ := exists_of_bind_eq_ok h
    obtain ⟨as', rest, h⟩ := exists_of_bind_eq_ok h
    cases h
    rw [List.length_cons, List.length_cons, length_of_items rest]

theorem wrongKind_ne_ok (w : Wanted) (t : Tree) (a : α) : wrongKind w t ≠ .ok a := by
  unfold wrongKind
  split <;> exact fun h => by cases h

/-- **No list is longer than its tree is large.** -/
theorem length_of_list {t : Tree} {as : List α} (h : list r t = .ok as) : as.length ≤ t.extent := by
  unfold list at h
  split at h
  · next ts e =>
    obtain ⟨as', items, h⟩ := exists_of_bind_eq_ok h
    obtain ⟨_, _, h⟩ := exists_of_bind_eq_ok h
    cases h
    have counted := length_le_itemsExtent ts
    rw [length_of_items items, Tree.extent]
    omega
  · exact absurd h (wrongKind_ne_ok _ _ _)

end List

namespace Record

theorem extent_of_members {fields : List Field} {size : Nat} : ∀ {ms : List (Quoted × Tree)}
    {found all : List (String × Tree)}, members fields found ms = .ok all →
    (∀ m ∈ ms, m.2.extent ≤ size) → (∀ p ∈ found, p.2.extent ≤ size) → ∀ p ∈ all, p.2.extent ≤ size
  | [], found, all, h, _, hfound => by
    cases h
    exact hfound
  | (k, t) :: ms, found, all, h, hms, hfound => by
    have rest : ∀ m ∈ ms, m.2.extent ≤ size := fun m hm => hms m (List.mem_cons_of_mem _ hm)
    unfold members at h
    obtain ⟨name, _, h⟩ := exists_of_bind_eq_ok h
    split at h
    · split at h
      · cases h
      · obtain ⟨_, _, h⟩ := exists_of_bind_eq_ok h
        obtain ⟨_, _, h⟩ := exists_of_bind_eq_ok h
        refine extent_of_members h rest fun p hp => ?_
        rcases List.mem_append.mp hp with hp | hp
        · exact hfound p hp
        · cases List.mem_singleton.mp hp
          exact hms (k, t) List.mem_cons_self
    · obtain ⟨_, _, h⟩ := exists_of_bind_eq_ok h
      obtain ⟨_, _, h⟩ := exists_of_bind_eq_ok h
      exact extent_of_members h rest hfound

theorem extent_of_positions {title : String} {count size : Nat} {ending : ListEnd} :
    ∀ {fields : List Field} {ts : List Tree} {i : Nat} {all : List (String × Tree)},
    positions title count ending i fields ts = .ok all → (∀ t ∈ ts, t.extent ≤ size) →
    ∀ p ∈ all, p.2.extent ≤ size
  | [], [], _, all, h, _ => by
    obtain ⟨_, _, h⟩ := exists_of_bind_eq_ok h
    cases h
    exact fun p hp => by cases hp
  | [], _ :: _, _, all, h, _ => by cases h
  | _ :: _, [], _, all, h, _ => by
    unfold positions at h
    split at h <;> cases h
  | f :: fields, t :: ts, i, all, h, hts => by
    obtain ⟨_, _, h⟩ := exists_of_bind_eq_ok h
    obtain ⟨all', rest, h⟩ := exists_of_bind_eq_ok h
    cases h
    intro p hp
    rcases List.mem_cons.mp hp with rfl | hp
    · exact hts t List.mem_cons_self
    · exact extent_of_positions rest (fun t' ht' => hts t' (List.mem_cons_of_mem t ht')) p hp

/-- **The values from which a record is built are no larger than its tree.** -/
theorem extent_of_reader {α : Type} {r : Record α} {title : String} {t : Tree} {a : α}
    (h : r.reader title t = .ok a) :
    ∃ found, r.build found = .ok a ∧ ∀ p ∈ found, p.2.extent ≤ t.extent := by
  unfold reader at h
  split at h
  · next ms e =>
    obtain ⟨found, read, h⟩ := exists_of_bind_eq_ok h
    obtain ⟨_, _, h⟩ := exists_of_bind_eq_ok h
    refine ⟨found, h, extent_of_members read (fun m hm => ?_) fun p hp => by cases hp⟩
    have := extent_le_membersExtent hm
    rw [Tree.extent]
    omega
  · next ts e =>
    obtain ⟨found, read, h⟩ := exists_of_bind_eq_ok h
    refine ⟨found, h, extent_of_positions read fun t ht => ?_⟩
    have := extent_le_itemsExtent ht
    rw [Tree.extent]
    omega
  · exact absurd h (wrongKind_ne_ok _ _ _)

end Record

/-- A list that a field of a record holds is no longer than what was found is large. -/
theorem length_of_field {α : Type} {r : Reader α} {name : String} {found : List (String × Tree)}
    {as : List α} {size : Nat} (h : (field name (list r)).build found = .ok as)
    (small : ∀ p ∈ found, p.2.extent ≤ size) : as.length ≤ size := by
  unfold field at h
  dsimp only at h
  split at h
  · next t ht =>
    obtain ⟨l, l', hfound, _⟩ := List.lookup_eq_some_iff.mp ht
    have mem : (name, t) ∈ found := by rw [hfound]; simp
    cases hr : list r t with
    | error e => rw [hr] at h; cases h
    | ok bs =>
      rw [hr] at h
      cases h
      exact Nat.le_trans (length_of_list hr) (small _ mem)
  · cases h

end BoxOffice.Json
