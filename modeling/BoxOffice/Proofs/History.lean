import BoxOffice.Proofs.Atomicity

/-!
# The history of a run

A run of requests leaves a history, the deeds of those that were granted, in their order. As every
request is answered as a whole, the requests of several clients in any interleaving are one run.

* `deeds s rs` -- the history of a run;
* `Did s ds s'` -- the deeds `ds` take the store `s` to `s'`, one after the other;
* `did_answers` -- a run does its history. An invariant of stores and histories that every deed
  keeps therefore holds at every point of every run.
-/

namespace BoxOffice

/-- The deeds `ds` take the store `s` to `s'`, one after the other. -/
inductive Did (s : Store) : List Deed → Store → Prop where
  | nothing : Did s [] s
  | more {ds : List Deed} {s' s'' : Store} {d : Deed} (before : Did s ds s') (last : Does s' d s'') :
      Did s (ds ++ [d]) s''

/-- The shows are those of the start. -/
theorem Did.shows_eq {s s' : Store} {ds : List Deed} (h : Did s ds s') : s'.shows = s.shows := by
  induction h with
  | nothing => rfl
  | more _ last ih => exact last.shows_eq.trans ih

/-! ## What a history hands out -/

namespace Deed

/-- The tickets that a deed hands out. -/
def tickets : Deed → List Ticket
  | .reserved ts => ts
  | .purchased _ | .released _ | .refunded _ => []

/-- The invoices that a deed hands out. -/
def invoices : Deed → List Invoice
  | .purchased i | .refunded i => [i]
  | .reserved _ | .released _ => []

end Deed

/-- The tickets handed out over a history. -/
def handedOut (ds : List Deed) : List Ticket := ds.flatMap Deed.tickets

/-- The invoices handed out over a history. -/
def invoiced (ds : List Deed) : List Invoice := ds.flatMap Deed.invoices

@[simp] theorem handedOut_nil : handedOut [] = [] := rfl

@[simp] theorem invoiced_nil : invoiced [] = [] := rfl

theorem handedOut_append (ds es : List Deed) : handedOut (ds ++ es) = handedOut ds ++ handedOut es :=
  List.flatMap_append

@[simp] theorem handedOut_singleton (d : Deed) : handedOut [d] = d.tickets := by
  simp [handedOut]

theorem invoiced_append (ds es : List Deed) : invoiced (ds ++ es) = invoiced ds ++ invoiced es :=
  List.flatMap_append

@[simp] theorem invoiced_singleton (d : Deed) : invoiced [d] = d.invoices := by
  simp [invoiced]

namespace Server

/-- **What a run of requests did**, in order. -/
def deeds (s : Store) : List Request → List Deed
  | [] => []
  | r :: rs => (deed? s r).toList ++ deeds (answer s r).2 rs

theorem answers_cons (s : Store) (r : Request) (rs : List Request) :
    answers s (r :: rs) =
      ((answer s r).1 :: (answers (answer s r).2 rs).1, (answers (answer s r).2 rs).2) := rfl

theorem did_answers_after {s₀ : Store} : ∀ (rs : List Request) {s : Store} {ds : List Deed},
    Did s₀ ds s → Did s₀ (ds ++ deeds s rs) (answers s rs).2
  | [], _, ds, h => by
    rw [deeds, List.append_nil]
    exact h
  | r :: rs, s, ds, h => by
    rw [deeds, answers_cons, ← List.append_assoc]
    refine did_answers_after rs ?_
    rcases answer_cases s r with ⟨hd, same⟩ | ⟨d, hd, done, _⟩
    · rw [hd, same, Option.toList_none, List.append_nil]
      exact h
    · rw [hd, Option.toList_some]
      exact .more h done

/-- **A run does its history.** -/
theorem did_answers (s : Store) (rs : List Request) : Did s (deeds s rs) (answers s rs).2 :=
  did_answers_after rs .nothing

/-! ## Runs in parts -/

/-- The store after a run in two parts. -/
theorem answers_append (ss : List Request) : ∀ (rs : List Request) (s : Store),
    (answers s (rs ++ ss)).2 = (answers (answers s rs).2 ss).2
  | [], _ => rfl
  | r :: rs, s => by
    rw [List.cons_append, answers_cons, answers_cons]
    exact answers_append ss rs (answer s r).2

/-- The history of a run in two parts. -/
theorem deeds_append (ss : List Request) : ∀ (rs : List Request) (s : Store),
    deeds s (rs ++ ss) = deeds s rs ++ deeds (answers s rs).2 ss
  | [], _ => rfl
  | r :: rs, s => by
    rw [List.cons_append, deeds, deeds, answers_cons, deeds_append ss rs, List.append_assoc]

/-- The store after one more request. -/
theorem answers_concat (rs : List Request) (r : Request) (s : Store) :
    (answers s (rs ++ [r])).2 = (answer (answers s rs).2 r).2 := answers_append [r] rs s

/-- The history of a run begins with the deed of its first request. -/
theorem deeds_cons_of_deed {s : Store} {r : Request} {d : Deed} (h : deed? s r = some d) (rs : List Request) :
    deeds s (r :: rs) = d :: deeds (answer s r).2 rs := by
  rw [deeds, h]
  rfl

/-- Every deed of a history is the one of some request of the run. -/
theorem exists_request_of_mem_deeds {d : Deed} : ∀ {rs : List Request} {s : Store}, d ∈ deeds s rs →
    ∃ before r after, rs = before ++ r :: after ∧ deed? (answers s before).2 r = some d
  | r :: rs, s, h => by
    rcases List.mem_append.mp h with h | h
    · exact ⟨[], r, rs, rfl, Option.mem_toList.mp h⟩
    · obtain ⟨before, r', after, rfl, hd⟩ := exists_request_of_mem_deeds h
      exact ⟨r :: before, r', after, rfl, hd⟩

/-- A request that does a deed takes the store to what the deed takes it to. -/
theorem does_of_deed {s : Store} {r : Request} {d : Deed} (h : deed? s r = some d) :
    Does s d (answer s r).2 := by
  rcases answer_cases s r with ⟨hd, _⟩ | ⟨d', hd, done, _⟩
  · rw [hd] at h
    cases h
  · rw [hd] at h
    cases h
    exact done

/-- It is answered with the reply of the deed. -/
theorem reply_of_deed {s : Store} {r : Request} {d : Deed} (h : deed? s r = some d) :
    (answer s r).1 = Reply.ofDeed d := by
  rcases answer_cases s r with ⟨hd, _⟩ | ⟨d', hd, _, reply⟩
  · rw [hd] at h
    cases h
  · rw [hd] at h
    cases h
    exact reply

end Server

end BoxOffice
