import Mathlib.Data.List.Sort
import BoxOffice.Proofs.Atomicity

/-!
# What an occupancy lists

An occupancy lists tickets by ascending number, each that is asked for once, and nothing else. Asked for are the
tickets of a show, those of the shows on a seating plan, those of both, or all. A ticket whose show is not known
is on no seating plan, and every other one is on exactly one.

* `Store.Asked` -- a filter asks for a ticket, `Store.isWanted_iff` -- as the store decides it;
* `Store.Lists` -- a list has one entry for each ticket that is asked for and no other, in ascending order;
  `Store.Lists.unique` -- there is one such list, and `Store.lists_occupancy` -- it is the occupancy;
* `Store.InUse` -- a seating plan on which a show takes place;
* `occupancy_answered` -- so every question for an occupancy is answered by it, both filters together yield what
  is common to the answers to each, and the seating plans in use divide up the tickets whose shows are known.
-/

namespace BoxOffice

/-! ## 1. The order of the entries -/

namespace Seating

/-- The entry of a ticket with a lower number. -/
def Before (a b : Seating) : Prop := a.ticketId < b.ticketId

instance : Std.Irrefl Before := ⟨fun _ => Int64.lt_irrefl⟩

instance : Std.Antisymm Before := ⟨fun _ _ less more => absurd (Int64.lt_trans less more) Int64.lt_irrefl⟩

end Seating

/-! ## 2. What is asked for -/

namespace SeatingFilter

/-- All tickets of the shows on a seating plan. -/
def onPlan (plan : Int64) : SeatingFilter := ⟨some plan, none⟩

/-- All tickets of a show. -/
def ofShow (showId : Int64) : SeatingFilter := ⟨none, some showId⟩

end SeatingFilter

namespace Store

variable {s : Store}

/-- **The filter asks for the ticket**: it is of the show if one is given, and its show is known and takes place
    on the seating plan if one is given. -/
def Asked (s : Store) (f : SeatingFilter) (t : Ticket) : Prop :=
  (∀ showId ∈ f.eventShowId, t.eventShowId = showId) ∧
  (∀ plan ∈ f.seatingPlanId, ∃ w, s.shows.get? t.eventShowId = some w ∧ w.seatingPlanId = plan)

theorem isOnPlan_iff (plan : Int64) (t : Ticket) :
    s.isOnPlan plan t = true ↔ ∃ w, s.shows.get? t.eventShowId = some w ∧ w.seatingPlanId = plan := by
  rw [isOnPlan]
  cases s.shows.get? t.eventShowId <;> simp

/-- **A ticket is wanted if the filter asks for it.** -/
theorem isWanted_iff (f : SeatingFilter) (t : Ticket) : s.isWanted f t = true ↔ s.Asked f t := by
  obtain ⟨plan, showId⟩ := f
  rw [isWanted, Bool.and_eq_true, Asked]
  refine and_congr ?_ ?_
  · cases showId with
    | none => simp
    | some showId => simpa using eq_comm
  · cases plan with
    | none => simp
    | some plan => simp [isOnPlan_iff]

theorem asked_onPlan_iff (plan : Int64) (t : Ticket) :
    s.Asked (.onPlan plan) t ↔ ∃ w, s.shows.get? t.eventShowId = some w ∧ w.seatingPlanId = plan := by
  simp [Asked, SeatingFilter.onPlan]

/-- To ask for a show on a seating plan is to ask for the show and for the seating plan. -/
theorem asked_both_iff (plan showId : Int64) (t : Ticket) :
    s.Asked ⟨some plan, some showId⟩ t ↔ s.Asked (.onPlan plan) t ∧ s.Asked (.ofShow showId) t := by
  simp [Asked, SeatingFilter.onPlan, SeatingFilter.ofShow, and_comm]

/-! ## 3. The list of what is asked for -/

/-- **The list has one entry for each stored ticket that is wanted, and no other**, in ascending order. -/
structure Lists (s : Store) (wanted : Ticket → Prop) (es : List Seating) : Prop where
  ascending : es.Pairwise Seating.Before
  /-- a ticket that is wanted has exactly one entry, with its seat and its state -/
  each : ∀ k t, s.tickets.get? k = some t → wanted t →
    (es.filter fun e => e.ticketId = k) = [⟨k, t.seatId, t.state⟩]
  /-- every entry is that of a ticket that is wanted -/
  only : ∀ e ∈ es, ∃ t, s.tickets.get? e.ticketId = some t ∧ wanted t ∧ e = ⟨e.ticketId, t.seatId, t.state⟩

section Lists

variable {wanted : Ticket → Prop} {es es' : List Seating}

/-- What is on the list. -/
theorem Lists.mem_iff (h : s.Lists wanted es) (e : Seating) :
    e ∈ es ↔ ∃ t, s.tickets.get? e.ticketId = some t ∧ wanted t ∧ e = ⟨e.ticketId, t.seatId, t.state⟩ := by
  constructor
  · exact h.only e
  · rintro ⟨t, stored, asked, same⟩
    have entry : e ∈ es.filter fun e' => e'.ticketId = e.ticketId := by
      rw [h.each _ t stored asked, ← same]
      exact List.mem_singleton_self e
    exact List.mem_of_mem_filter entry

/-- **There is one such list.** -/
theorem Lists.unique (h : s.Lists wanted es) (h' : s.Lists wanted es') : es = es' :=
  h.ascending.eq_of_mem_iff h'.ascending fun e => (h.mem_iff e).trans (h'.mem_iff e).symm

/-- An ascending list of the right entries is the list. -/
theorem Lists.of_mem_iff (ascending : es.Pairwise Seating.Before)
    (mem_iff : ∀ e, e ∈ es ↔
      ∃ t, s.tickets.get? e.ticketId = some t ∧ wanted t ∧ e = ⟨e.ticketId, t.seatId, t.state⟩) :
    s.Lists wanted es where
  ascending := ascending
  each k t stored asked := by
    refine (ascending.filter _).eq_of_mem_iff (List.pairwise_singleton _ _) fun e => ?_
    rw [List.mem_filter, decide_eq_true_iff, List.mem_singleton, mem_iff]
    constructor
    · rintro ⟨⟨t', stored', _, same⟩, rfl⟩
      rw [stored] at stored'
      cases stored'
      exact same
    · rintro rfl
      exact ⟨⟨t, stored, asked, rfl⟩, rfl⟩
  only e := (mem_iff e).mp

end Lists

section Occupancy

variable (own : ∀ k t, s.tickets.get? k = some t → t.id = k)

include own

/-- The tickets of a table stand in it in the order of their numbers. -/
theorem pairwise_tickets : s.tickets.values.Pairwise fun t t' => t.id < t'.id := by
  have number : ∀ e ∈ s.tickets.entries, e.2.id = e.1 := fun e mem =>
    own e.1 e.2 (Table.lookup_of_mem s.tickets.ascending mem)
  refine List.pairwise_map.mpr (s.tickets.ascending.imp_of_mem fun mem mem' less => ?_)
  rwa [number _ mem, number _ mem']

/-- **The occupancy is the list of what the filter asks for.** -/
theorem lists_occupancy (f : SeatingFilter) : s.Lists (s.Asked f) (s.occupancy f) := by
  refine .of_mem_iff (List.pairwise_map.mpr ((pairwise_tickets own).filter _)) fun e => ?_
  rw [occupancy, List.mem_map]
  constructor
  · rintro ⟨t, mem, rfl⟩
    obtain ⟨listed, wanted⟩ := List.mem_filter.mp mem
    obtain ⟨k, stored⟩ := (s.tickets.mem_values_iff t).mp listed
    obtain rfl := own k t stored
    exact ⟨t, stored, (isWanted_iff f t).mp wanted, rfl⟩
  · rintro ⟨t, stored, asked, same⟩
    have listed := (s.tickets.mem_values_iff t).mpr ⟨_, stored⟩
    refine ⟨t, List.mem_filter.mpr ⟨listed, (isWanted_iff f t).mpr asked⟩, ?_⟩
    rw [Ticket.seating, own _ t stored, ← same]

/-- What an occupancy says of a ticket is what is stored of it. -/
theorem mem_occupancy_iff {k : Int64} {t : Ticket} (stored : s.tickets.get? k = some t) (f : SeatingFilter) :
    (⟨k, t.seatId, t.state⟩ : Seating) ∈ s.occupancy f ↔ s.Asked f t := by
  rw [(lists_occupancy own f).mem_iff]
  constructor
  · rintro ⟨t', stored', asked, _⟩
    rw [stored] at stored'
    cases stored'
    exact asked
  · exact fun asked => ⟨t, stored, asked, rfl⟩

/-- **Both filters yield what is common to the answers to each.** -/
theorem occupancy_both (plan showId : Int64) :
    s.occupancy ⟨some plan, some showId⟩ =
      (s.occupancy (.onPlan plan)).filter fun e => e ∈ s.occupancy (.ofShow showId) := by
  have onPlan := lists_occupancy own (.onPlan plan)
  refine (lists_occupancy own _).unique (.of_mem_iff (onPlan.ascending.filter _) fun e => ?_)
  rw [List.mem_filter, decide_eq_true_iff, onPlan.mem_iff]
  constructor
  · rintro ⟨⟨t, stored, asked, same⟩, both⟩
    rw [same, mem_occupancy_iff own stored] at both
    exact ⟨t, stored, (asked_both_iff plan showId t).mpr ⟨asked, both⟩, same⟩
  · rintro ⟨t, stored, asked, same⟩
    obtain ⟨first, second⟩ := (asked_both_iff plan showId t).mp asked
    refine ⟨⟨t, stored, first, same⟩, ?_⟩
    rw [same, mem_occupancy_iff own stored]
    exact second

/-! ## 4. Seating plans -/

/-- **No ticket is on two seating plans.** -/
theorem occupancy_disjoint {plan plan' : Int64} (different : plan ≠ plan') {e e' : Seating}
    (mem : e ∈ s.occupancy (.onPlan plan)) (mem' : e' ∈ s.occupancy (.onPlan plan')) :
    e.ticketId ≠ e'.ticketId := by
  intro number
  obtain ⟨t, stored, asked, _⟩ := (lists_occupancy own _).only e mem
  obtain ⟨t', stored', asked', _⟩ := (lists_occupancy own _).only e' mem'
  rw [number, stored'] at stored
  cases stored
  obtain ⟨w, known, rfl⟩ := (asked_onPlan_iff plan t).mp asked
  obtain ⟨w', known', rfl⟩ := (asked_onPlan_iff plan' t).mp asked'
  rw [known] at known'
  cases known'
  exact different rfl

end Occupancy

/-- **A show takes place on the seating plan.** -/
def InUse (s : Store) (plan : Int64) : Prop := ∃ id w, s.shows.get? id = some w ∧ w.seatingPlanId = plan

/-- **A ticket is on a seating plan in use if its show is known.** -/
theorem occupancy_complete (own : ∀ k t, s.tickets.get? k = some t → t.id = k) {k : Int64} {t : Ticket}
    (stored : s.tickets.get? k = some t) :
    (∃ plan, s.InUse plan ∧ (⟨k, t.seatId, t.state⟩ : Seating) ∈ s.occupancy (.onPlan plan)) ↔
      s.shows.contains t.eventShowId = true := by
  rw [Table.contains, Option.isSome_iff_exists]
  constructor
  · rintro ⟨plan, _, mem⟩
    rw [mem_occupancy_iff own stored, asked_onPlan_iff] at mem
    obtain ⟨w, known, _⟩ := mem
    exact ⟨w, known⟩
  · rintro ⟨w, known⟩
    refine ⟨w.seatingPlanId, ⟨_, w, known, rfl⟩, ?_⟩
    rw [mem_occupancy_iff own stored, asked_onPlan_iff]
    exact ⟨w, known, rfl⟩

end Store

/-! ## 5. Questions for an occupancy -/

namespace Server

variable {s : Store}

/-- **The request is a question for the occupancy that a filter asks for.** -/
structure Request.AsksFor (r : Request) (f : SeatingFilter) : Prop where
  route : r.route? = some .occupancy
  method : r.method = "GET"
  query : seatingQuery (Target.ofUri r.uri).query = .ok f

/-- A question for an occupancy is answered with it, and changes nothing. -/
theorem answer_of_asksFor (s : Store) {r : Request} {f : SeatingFilter} (h : r.AsksFor f) :
    answer s r = (.json 200 (.list ((s.occupancy f).map seatingValue)), s) := by
  have route : Route.ofPath? (Target.ofUri r.uri).path = some .occupancy := h.route
  have get : r.method ≠ "HEAD" := by
    rw [h.method]
    decide
  have accepted : Route.accepts .occupancy r.method = true := by
    rw [h.method]
    decide
  simp only [answer, route, accepted, if_true, runRoute, h.query, Except.mapError, withArguments, if_neg get]

/-- **What the questions for occupancies are answered**, whatever the tickets and the shows, if every ticket is
    stored under its own number.

    A question lists the tickets that its filter asks for, each once, by ascending number, and nothing else. Both
    filters together yield what is common to the answers to each of them. No ticket is on two seating plans, and
    one is on a seating plan in use if, and only if, its show is known. -/
theorem occupancy_answered (own : ∀ k t, s.tickets.get? k = some t → t.id = k) :
    (∀ (r : Request) (f : SeatingFilter), r.AsksFor f →
      answer s r = (.json 200 (.list ((s.occupancy f).map seatingValue)), s)) ∧
    (∀ f, s.Lists (s.Asked f) (s.occupancy f)) ∧
    (∀ plan showId, s.occupancy ⟨some plan, some showId⟩ =
      (s.occupancy ⟨some plan, none⟩).filter fun e => e ∈ s.occupancy ⟨none, some showId⟩) ∧
    (∀ plan plan', plan ≠ plan' → ∀ e ∈ s.occupancy ⟨some plan, none⟩, ∀ e' ∈ s.occupancy ⟨some plan', none⟩,
      e.ticketId ≠ e'.ticketId) ∧
    (∀ k t, s.tickets.get? k = some t →
      ((∃ plan, s.InUse plan ∧ (⟨k, t.seatId, t.state⟩ : Seating) ∈ s.occupancy ⟨some plan, none⟩) ↔
        s.shows.contains t.eventShowId = true)) := by
  refine ⟨?_, Store.lists_occupancy own, Store.occupancy_both own, ?_, ?_⟩
  · intro r f asks
    exact answer_of_asksFor s asks
  · intro plan plan' different e mem e' mem'
    exact Store.occupancy_disjoint own different mem mem'
  · intro k t stored
    exact Store.occupancy_complete own stored

/-- Tickets of shows on two seating plans, and one of a show that is not known. -/
def ticketsOfShows : Store where
  locations := .empty
  shows := .ofList Store.seededShows
  tickets := .ofList [(4, ⟨4, 11, 1, .reserved⟩), (2, ⟨2, 7, 2, .purchased⟩), (9, ⟨9, 7, 3, .reserved⟩),
    (1, ⟨1, 5, 8, .reserved⟩)]
  nextTicketId := 10
  nextInvoiceId := 1

/-- A question for the second show, on the seating plan 3. -/
def secondShowOnPlan : Request :=
  ⟨"GET", "/api/v1/tickets/reservations?seatingPlanId=3&eventShowId=2", [], ""⟩

/-- Two tickets are on the seating plan 3, one of them is of the second show. -/
theorem occupancy_answered_ticketsOfShows :
    (∀ k t, ticketsOfShows.tickets.get? k = some t → t.id = k) ∧
    secondShowOnPlan.AsksFor ⟨some 3, some 2⟩ ∧
    ticketsOfShows.occupancy ⟨some 3, none⟩ = [⟨2, 7, .purchased⟩, ⟨4, 11, .reserved⟩] ∧
    (answer ticketsOfShows secondShowOnPlan).1.body =
      r#"[{"ticketId":2,"seatId":7,"state":"PURCHASED"}]"# := by
  have own : ∀ k t, ticketsOfShows.tickets.get? k = some t → t.id = k := by
    intro k t found
    have numbers : ∀ e ∈ ticketsOfShows.tickets.entries, e.2.id = e.1 := by decide +kernel
    exact numbers _ (Table.mem_of_lookup found)
  have asks : secondShowOnPlan.AsksFor ⟨some 3, some 2⟩ := ⟨by decide +kernel, rfl, by decide +kernel⟩
  have onPlan : ticketsOfShows.occupancy ⟨some 3, none⟩ = [⟨2, 7, .purchased⟩, ⟨4, 11, .reserved⟩] := by
    decide +kernel
  obtain ⟨answered, _⟩ := occupancy_answered own
  refine ⟨own, asks, onPlan, ?_⟩
  rw [answered _ _ asks]
  decide +kernel

end Server

end BoxOffice
