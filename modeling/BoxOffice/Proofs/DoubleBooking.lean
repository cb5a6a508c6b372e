import BoxOffice.Proofs.Json.Extent
import BoxOffice.Proofs.Numbering

/-!
# Double booking

Nobody is handed a seat that somebody holds: `reserve` looks through the tickets in the store before
it writes new ones. It does not look at the tickets that it writes itself, so a request that lists a
seat twice is granted two tickets for it.

* `Store.NoDoubleBooking` -- no two tickets are for one seat;
* `Does.noDoubleBooking` -- every deed keeps this, a reservation if it lists each seat once;
* `Does.seats_nodup` -- a reservation that lists a seat twice breaks it;
* `noDoubleBooking_iff_seats_nodup` -- so a run never books a seat twice exactly if every granted
  reservation of it lists each seat once.
-/

namespace BoxOffice

namespace Store

/-- **No two tickets are for one seat of a show.** -/
def NoDoubleBooking (s : Store) : Prop :=
  ∀ k k' t t', s.tickets.get? k = some t → s.tickets.get? k' = some t' →
    t.eventShowId = t'.eventShowId → t.seatId = t'.seatId → k = k'

end Store

/-! ## 1. What keeps seats apart -/

/-- **Every deed keeps seats apart**, a reservation if it lists each seat once. -/
theorem Does.noDoubleBooking {s s' : Store} {d : Deed} (h : Does s d s')
    (single : s.NoDoubleBooking) (once : (d.tickets.map (·.seatId)).Nodup) :
    s'.NoDoubleBooking := by
  intro k k' t t' hk hk' hshow hseat
  obtain ⟨t₀, _, rfl, old | ⟨new, own⟩⟩ := h.origin hk
  · obtain ⟨t₁, _, rfl, old' | ⟨new', _⟩⟩ := h.origin hk'
    · exact single k k' t₀ t₁ old old' hshow hseat
    · -- the old ticket under `k` held the seat of the new one under `k'`
      exact absurd ⟨k, t₀, old, hshow, hseat⟩ (h.free t₁ new').2
  · obtain ⟨t₁, _, rfl, old' | ⟨new', own'⟩⟩ := h.origin hk'
    · exact absurd ⟨k', t₁, old', hshow.symm, hseat.symm⟩ (h.free t₀ new).2
    · have same : t₀ = t₁ := List.inj_on_of_nodup_map once new new' hseat
      rw [← own, ← own', same]

/-- A deed that hands out a seat twice has two tickets for it in the store. -/
theorem Does.seats_nodup {s s' : Store} {d : Deed} (h : Does s d s') (single : s'.NoDoubleBooking)
    (hlen : d.tickets.length ≤ 2 ^ 64) : (d.tickets.map (·.seatId)).Nodup := by
  have ids := h.ticketIds.nodup (by rwa [List.length_map])
  cases h with
  | @reserved showId seats =>
    rw [Deed.tickets, Store.length_addTickets] at hlen
    -- different tickets have different numbers, so they are for different seats
    refine List.pairwise_map.mpr ((List.pairwise_map.mp ids).imp_of_mem fun ht ht' other same => ?_)
    have shows := fun t ht => (Store.state_addTickets showId seats s t ht).1
    exact other (single _ _ _ _ (Store.get?_addTickets hlen ht) (Store.get?_addTickets hlen ht')
      ((shows _ ht).trans (shows _ ht').symm) same)
  | purchased | released | refunded => exact List.nodup_nil

/-- A history that lists each seat of a reservation once keeps seats apart. -/
theorem Did.noDoubleBooking {s s' : Store} {ds : List Deed} (h : Did s ds s')
    (single : s.NoDoubleBooking) (once : ∀ d ∈ ds, (d.tickets.map (·.seatId)).Nodup) :
    s'.NoDoubleBooking := by
  induction h with
  | nothing => exact single
  | more _ last ih =>
    refine last.noDoubleBooking (ih fun d hd => ?_) ?_
    · exact once d (List.mem_append_left _ hd)
    · exact once _ (List.mem_append_right _ (List.mem_singleton_self _))

/-! ## 2. Runs -/

/-- No ticket, no double booking. -/
theorem Store.noDoubleBooking_seeded : Store.seeded.NoDoubleBooking := by
  intro k k' t t' hk
  cases hk

namespace Server

/-- A request for one seat, listed twice. -/
def repeatedSeat : Request :=
  ⟨"POST", "/api/v1/tickets", [("content-type", "application/json")],
   r#"{"eventShowId":1,"seatIds":[7,7]}"#⟩

/-- **Not every run keeps seats apart**: one request can be granted a seat twice. -/
theorem repeated_seat_is_booked_twice :
    ¬ ∀ rs : List Request, (answers .seeded rs).2.NoDoubleBooking := by
  intro h
  have first : (answers .seeded [repeatedSeat]).2.tickets.get? 1 = some ⟨1, 7, 1, .reserved⟩ := by
    decide +kernel
  have second : (answers .seeded [repeatedSeat]).2.tickets.get? 2 = some ⟨2, 7, 1, .reserved⟩ := by
    decide +kernel
  have same := h [repeatedSeat] 1 2 _ _ first second rfl rfl
  exact absurd same (by decide)

/-- A request that is read lists no more seats than it has bytes, and one more. -/
theorem length_seatIds {body : String} {q : SeatRequest}
    (h : Json.Reader.read seatRequest body = .ok q) : q.seatIds.length ≤ body.utf8ByteSize + 1 := by
  obtain ⟨q', read, h⟩ := Json.exists_of_bind_eq_ok h
  split at h
  · cases h
  · cases h
    obtain ⟨found, built, small⟩ := Json.Record.extent_of_reader read
    obtain ⟨g, hg, built⟩ := Json.exists_of_bind_eq_ok built
    obtain ⟨seats, hseats, built⟩ := Json.exists_of_bind_eq_ok built
    obtain ⟨mk, hmk, hg⟩ := Json.exists_of_bind_eq_ok hg
    obtain ⟨showId, _, hg⟩ := Json.exists_of_bind_eq_ok hg
    cases hmk
    cases hg
    cases built
    exact Nat.le_trans (Json.length_of_field hseats small) (Json.extent_ofText body)

/-- As the size of a body is limited, so is the number of seats of a reservation. -/
theorem length_seatIds_of_sale {r : Request} {q : SeatRequest} (h : r.sale? = some (.reserve q)) :
    q.seatIds.length ≤ bodyLimit + 1 := by
  have read : (r.jsonBody seatRequest).toOption = some q := by
    unfold Request.sale? at h
    split at h
    · cases h
    · next route _ =>
      split at h
      · cases route with
        | tickets =>
          obtain ⟨q', hq, e⟩ := Option.map_eq_some_iff.mp h
          cases e
          exact hq
        | orders | ticket | refund =>
          obtain ⟨_, _, e⟩ := Option.map_eq_some_iff.mp h
          cases e
        | locations | location | occupancy => cases h
      · cases h
  unfold Request.jsonBody at read
  split at read
  · split at read
    · next fits =>
      rw [toOption_mapError] at read
      cases hr : Json.Reader.read seatRequest r.body with
      | error e => rw [hr] at read; cases read
      | ok q' =>
        rw [hr] at read
        cases read
        exact Nat.le_trans (length_seatIds hr) (by omega)
    · cases read
  · cases read

/-- So no deed hands out as many tickets as there are ids. -/
theorem length_tickets_of_deed {s : Store} {r : Request} {d : Deed} (h : deed? s r = some d) :
    d.tickets.length ≤ 2 ^ 64 := by
  obtain ⟨c, asked, sold⟩ := exists_sale_of_deed h
  cases c with
  | reserve q =>
    obtain ⟨ts, given, rfl⟩ := exists_of_map_eq_ok sold
    obtain ⟨rfl, _, _⟩ := Store.written_of_reserve given
    have limit := length_seatIds_of_sale asked
    have : bodyLimit + 1 ≤ 2 ^ 64 := by decide
    rw [Deed.tickets, Store.length_addTickets]
    omega
  | order | release | refund =>
    obtain ⟨_, _, rfl⟩ := exists_of_map_eq_ok sold
    exact Nat.zero_le _

/-- **A run never books a seat twice exactly if each of its granted reservations lists each seat
    once.** -/
theorem noDoubleBooking_iff_seats_nodup (rs : List Request) :
    (∀ rs', rs' <+: rs → (answers .seeded rs').2.NoDoubleBooking) ↔
      ∀ ts, .reserved ts ∈ deeds .seeded rs → (ts.map (·.seatId)).Nodup := by
  constructor
  · intro single ts hts
    obtain ⟨before, r, after, rfl, hd⟩ := exists_request_of_mem_deeds hts
    have after_deed := single (before ++ [r]) ⟨after, by simp⟩
    rw [answers_concat] at after_deed
    exact (does_of_deed hd).seats_nodup after_deed (length_tickets_of_deed hd)
  · rintro once rs' ⟨rest, rfl⟩
    refine (did_answers .seeded rs').noDoubleBooking Store.noDoubleBooking_seeded fun d hd => ?_
    cases d with
    | reserved ts =>
      refine once ts ?_
      rw [deeds_append]
      exact List.mem_append_left _ hd
    | purchased | released | refunded => exact List.nodup_nil

end Server

end BoxOffice
