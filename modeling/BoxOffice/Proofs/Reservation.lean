import Mathlib.Algebra.Group.Int.Defs
import Mathlib.Algebra.Group.Nat.Defs
import Mathlib.Data.List.Nodup
import BoxOffice.Proofs.Deed

/-!
# What a reservation writes

A reservation writes one ticket for each seat that it lists, numbered from the ticket counter on and
stored under its number. The counter has 64 bits and may come round, but no reservation is so long that
it meets its own numbers again.

* `Consecutive a ns b` -- the numbers `ns` are those from `a` on, and `b` is the one after them;
* `Consecutive.nodup` -- they are different; `Consecutive.bounds`, `Consecutive.ascending` -- as long as
  they do not come round, they ascend between `a` and `b`;
* `Store.consecutive_addTickets`, `Store.seats_addTickets`, `Store.state_addTickets` -- number, seat, show and
  state of the tickets written;
* `Store.get?_addTickets_of_not_mem`, `Store.get?_addTickets_of_mem` -- what is stored after it.
-/

namespace BoxOffice

/-! ## 1. Consecutive numbers -/

theorem toInt_add_one {n : Int64} (h : n.toInt + 1 < 2 ^ 63) : (n + 1).toInt = n.toInt + 1 := by
  have low := Int64.le_toInt n
  rw [Int64.toInt_add, Int64.toInt_one]
  exact Int.bmod_eq_of_le (by omega) (by omega)

theorem add_ofNat_inj {n : Int64} {i j : Nat} (hi : i < 2 ^ 64) (hj : j < 2 ^ 64)
    (h : n + Int64.ofNat i = n + Int64.ofNat j) : i = j := by
  have heq : Int64.ofNat i = Int64.ofNat j := (Int64.add_right_inj n).mp h
  have hbits := congrArg (fun x : Int64 => x.toBitVec.toNat) heq
  simp only [Int64.toBitVec_ofNat', BitVec.toNat_ofNat] at hbits
  rwa [Nat.mod_eq_of_lt hi, Nat.mod_eq_of_lt hj] at hbits

theorem add_one_add_ofNat (n : Int64) (i : Nat) :
    n + 1 + Int64.ofNat i = n + Int64.ofNat (i + 1) := by
  rw [Int64.add_assoc, Int64.ofNat_add, Int64.add_comm 1]
  rfl

/-- **The numbers from `a` on**, up to the one before `b`. -/
inductive Consecutive : Int64 → List Int64 → Int64 → Prop where
  | none (a : Int64) : Consecutive a [] a
  | more {a b : Int64} {ns : List Int64} (rest : Consecutive (a + 1) ns b) : Consecutive a (a :: ns) b

namespace Consecutive

variable {a b c : Int64} {ms ns : List Int64}

/-- One number. -/
theorem one (a : Int64) : Consecutive a [a] (a + 1) := .more (.none (a + 1))

/-- Numbers that begin where others end go on with them. -/
theorem append (h : Consecutive a ms b) (k : Consecutive b ns c) : Consecutive a (ms ++ ns) c := by
  induction h with
  | none => exact k
  | more _ ih => exact .more (ih k)

/-- The number at index `i` is `a + i`. -/
theorem eq_map (h : Consecutive a ns b) : ns = (List.range ns.length).map fun i => a + Int64.ofNat i := by
  induction h with
  | none => rfl
  | @more a b ns _ ih =>
    have first : a + Int64.ofNat 0 = a := Int64.add_zero a
    rw [List.length_cons, List.range_succ_eq_map, List.map_cons, List.map_map, first]
    refine congrArg (a :: ·) (ih.trans (List.map_congr_left fun i _ => ?_))
    exact add_one_add_ofNat a i

/-- **No number comes twice**, not in so many either that they come round. -/
theorem nodup (h : Consecutive a ns b) (few : ns.length ≤ 2 ^ 64) : ns.Nodup := by
  rw [h.eq_map]
  refine List.Nodup.map_on (fun i hi j hj same => ?_) List.nodup_range
  rw [List.mem_range] at hi hj
  exact add_ofNat_inj (Nat.lt_of_lt_of_le hi few) (Nat.lt_of_lt_of_le hj few) same

section Room

-- the numbers do not come round
variable (room : a.toInt + ns.length < 2 ^ 63)

include room

/-- Where they end tells how many there are. -/
theorem toInt_eq (h : Consecutive a ns b) : b.toInt = a.toInt + ns.length := by
  induction h with
  | none a => simp
  | @more a b ns _ ih =>
    rw [List.length_cons] at room ⊢
    have first : (a + 1).toInt = a.toInt + 1 := toInt_add_one (by omega)
    rw [ih (by omega), first]
    omega

/-- **They are between `a` and `b`.** -/
theorem bounds (h : Consecutive a ns b) : ∀ n ∈ ns, a ≤ n ∧ n < b := by
  induction h with
  | none => exact fun n hn => by cases hn
  | @more a b ns rest ih =>
    intro n hn
    have last := (Consecutive.more rest).toInt_eq room
    rw [List.length_cons] at room last
    have first : (a + 1).toInt = a.toInt + 1 := toInt_add_one (by omega)
    rw [Int64.le_iff_toInt_le, Int64.lt_iff_toInt_lt]
    rcases List.mem_cons.mp hn with rfl | hn
    · omega
    · obtain ⟨low, high⟩ := ih (by omega) n hn
      rw [Int64.le_iff_toInt_le] at low
      rw [Int64.lt_iff_toInt_lt] at high
      omega

/-- **They ascend.** -/
theorem ascending (h : Consecutive a ns b) : ns.Pairwise (· < ·) := by
  induction h with
  | none => exact .nil
  | @more a b ns rest ih =>
    rw [List.length_cons] at room
    have first : (a + 1).toInt = a.toInt + 1 := toInt_add_one (by omega)
    refine List.pairwise_cons.mpr ⟨fun n hn => ?_, ih (by omega)⟩
    have low := (rest.bounds (by omega) n hn).1
    rw [Int64.le_iff_toInt_le] at low
    rw [Int64.lt_iff_toInt_lt]
    omega

end Room

end Consecutive

namespace Store

/-! ## 2. The tickets that are written -/

/-- They are numbered from the counter on. -/
theorem consecutive_addTickets (showId : Int64) (seats : List Int64) (s : Store) :
    Consecutive s.nextTicketId ((s.addTickets showId seats).1.map (·.id))
      (s.addTickets showId seats).2.nextTicketId := by
  induction seats generalizing s with
  | nil => exact .none s.nextTicketId
  | cons seat seats ih => exact .more (ih (s.addTicket showId seat).2)

/-- They are for the seats listed, in their order. -/
theorem seats_addTickets (showId : Int64) (seats : List Int64) (s : Store) :
    (s.addTickets showId seats).1.map (·.seatId) = seats := by
  induction seats generalizing s with
  | nil => rfl
  | cons seat seats ih =>
    rw [addTickets_cons, List.map_cons, ih]
    rfl

/-- They are for the show, and reserved. -/
theorem state_addTickets (showId : Int64) (seats : List Int64) (s : Store) :
    ∀ t ∈ (s.addTickets showId seats).1, t.eventShowId = showId ∧ t.state = .reserved := by
  induction seats generalizing s with
  | nil => exact fun t ht => by cases ht
  | cons seat seats ih =>
    intro t ht
    rw [addTickets_cons] at ht
    rcases List.mem_cons.mp ht with rfl | ht
    · exact ⟨rfl, rfl⟩
    · exact ih _ t ht

/-- A reservation that is granted hands out a ticket for one of its seats. -/
theorem exists_handed {s : Store} {q : SeatRequest} {ts : List Ticket} (granted : (s.reserve q).1 = .ok ts) :
    ∃ t ∈ ts, t.eventShowId = q.eventShowId ∧ t.seatId ∈ q.seatIds := by
  rcases s.reserve_cases q with ⟨why, refused⟩ | ⟨written, seats, _, _⟩
  · rw [refused] at granted
    cases granted
  · rw [written] at granted
    cases granted
    obtain ⟨seat, mem⟩ := List.exists_mem_of_ne_nil q.seatIds seats
    have listed := mem
    rw [← seats_addTickets q.eventShowId q.seatIds s] at listed
    obtain ⟨t, handed, rfl⟩ := List.mem_map.mp listed
    exact ⟨t, handed, (state_addTickets q.eventShowId q.seatIds s t handed).1, mem⟩

/-! ## 3. What is stored afterwards -/

section Stored

variable {s : Store} {showId k : Int64} {seats : List Int64}

/-- Under a number that is not handed out everything stays as it is. -/
theorem get?_addTickets_of_not_mem (other : k ∉ (s.addTickets showId seats).1.map (·.id)) :
    (s.addTickets showId seats).2.tickets.get? k = s.tickets.get? k := by
  induction seats generalizing s with
  | nil => rfl
  | cons seat seats ih =>
    rw [addTickets_cons, List.map_cons, List.mem_cons, not_or] at other
    rw [addTickets_cons, ih other.2]
    exact Table.get?_insert_of_ne _ other.1 _

/-- Under a number that is handed out one of the tickets written is stored. -/
theorem get?_addTickets_of_mem (handed : k ∈ (s.addTickets showId seats).1.map (·.id)) :
    ∃ t ∈ (s.addTickets showId seats).1, t.id = k ∧
      (s.addTickets showId seats).2.tickets.get? k = some t := by
  induction seats generalizing s with
  | nil => cases handed
  | cons seat seats ih =>
    rw [addTickets_cons, List.map_cons, List.mem_cons] at handed
    rw [addTickets_cons]
    by_cases later : k ∈ ((s.addTicket showId seat).2.addTickets showId seats).1.map (·.id)
    · obtain ⟨t, written, own, stored⟩ := ih later
      exact ⟨t, List.mem_cons_of_mem _ written, own, stored⟩
    · obtain rfl := handed.resolve_right later
      refine ⟨_, List.mem_cons_self, rfl, ?_⟩
      rw [get?_addTickets_of_not_mem later]
      exact Table.get?_insert_self _ _ _

/-- **A ticket stored afterwards was stored before, or is written**, under its own number. -/
theorem origin_addTickets {t : Ticket} (found : (s.addTickets showId seats).2.tickets.get? k = some t) :
    s.tickets.get? k = some t ∨ t ∈ (s.addTickets showId seats).1 ∧ t.id = k := by
  by_cases handed : k ∈ (s.addTickets showId seats).1.map (·.id)
  · obtain ⟨t', written, own, stored⟩ := get?_addTickets_of_mem handed
    rw [found] at stored
    cases stored
    exact Or.inr ⟨written, own⟩
  · rw [get?_addTickets_of_not_mem handed] at found
    exact Or.inl found

/-- **Every ticket written is stored**, unless the numbers come round. -/
theorem get?_addTickets (few : seats.length ≤ 2 ^ 64) {t : Ticket}
    (written : t ∈ (s.addTickets showId seats).1) :
    (s.addTickets showId seats).2.tickets.get? t.id = some t := by
  have distinct := (consecutive_addTickets showId seats s).nodup (by
    rw [List.length_map, length_addTickets]
    exact few)
  obtain ⟨t', written', own, stored⟩ := get?_addTickets_of_mem (List.mem_map_of_mem written)
  rw [List.inj_on_of_nodup_map distinct written' written own] at stored
  exact stored

end Stored

end Store

end BoxOffice
