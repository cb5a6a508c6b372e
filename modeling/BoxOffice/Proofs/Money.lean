import BoxOffice.Proofs.Json.Written
import BoxOffice.Proofs.Number.Shortest
import BoxOffice.Store.Sale

/-!
# Totals can be read

* `priceOf_atMost` -- no ticket of the seeded shows costs more than `64`;
* `bill_atMost` -- so no total exceeds `64` for each ticket;
* `exists_float64_tree` -- a total of less than `2 ^ 22` tickets, as it is written, is a number that can be
  read.
-/

namespace BoxOffice

open BoxOffice.Number

/-! ## 1. Prices -/

/-- The power of two that `64` is, in units. -/
@[irreducible] def priceBits : Nat := 1080

theorem priceBits_eq : priceBits = 1080 := by
  unfold priceBits
  rfl

/-- The double is at most `64` for each of `n` tickets. -/
def PricesAtMost (n : Nat) (x : Float) : Prop := AtMost (n * 2 ^ priceBits) x

instance (n : Nat) (x : Float) : Decidable (PricesAtMost n x) :=
  match h : Binary64.ofFloat x with
  | .finite false d =>
    if k : -1074 ≤ d.q ∧ units d.m d.q ≤ n * 2 ^ priceBits then isTrue ⟨d, h, k⟩
    else isFalse fun ⟨_, h', k'⟩ => by cases h.symm.trans h'; exact k k'
  | .finite true _ => isFalse fun ⟨_, h', _⟩ => by cases h.symm.trans h'
  | .infinite _ => isFalse fun ⟨_, h', _⟩ => by cases h.symm.trans h'
  | .nan => isFalse fun ⟨_, h', _⟩ => by cases h.symm.trans h'

theorem pricesAtMost_zero : PricesAtMost 0 0.0 := by
  decide +kernel

/-- **One more price adds one to the number of tickets.** -/
theorem PricesAtMost.add {n : Nat} {x y : Float} (small : n + 1 < 2 ^ 22) (hx : PricesAtMost n x)
    (hy : PricesAtMost 1 y) : PricesAtMost (n + 1) (x + y) := by
  have total : (n + 1) * 2 ^ priceBits = n * 2 ^ priceBits + 1 * 2 ^ priceBits := Nat.add_mul n 1 _
  have bound : IsBound priceBits ((n + 1) * 2 ^ priceBits) := by
    refine ⟨Nat.dvd_mul_left _ _, ?_⟩
    rw [Nat.add_comm priceBits, Nat.pow_add]
    exact Nat.mul_lt_mul_of_pos_right small (Nat.two_pow_pos priceBits)
  rw [PricesAtMost, total]
  rw [total] at bound
  exact AtMost.add bound (by rw [priceBits_eq]; decide) hx hy

namespace Store

/-- Every seeded show has a price of at most `64`. -/
theorem price_atMost : ∀ w ∈ seeded.shows.values, PricesAtMost 1 w.price := by
  decide +kernel

theorem priceOf_atMost {s : Store} (h : s.shows = seeded.shows) (t : Ticket) :
    PricesAtMost 1 (s.priceOf t) := by
  unfold priceOf
  rw [h]
  split
  · next w found => exact price_atMost w ((Table.mem_values_iff _ w).mpr ⟨_, found⟩)
  · decide +kernel

/-! ## 2. Totals -/

/-- **A total is at most `64` for each ticket.** -/
theorem bill_atMost {s : Store} (h : s.shows = seeded.shows) : ∀ {ids : List Int64} {n : Nat}
    {sum total : Float}, PricesAtMost n sum → s.bill sum ids = .ok total →
    n + ids.length < 2 ^ 22 → PricesAtMost (n + ids.length) total
  | [], n, sum, total, start, bill, _ => by
    cases bill
    exact start
  | id :: ids, n, sum, total, start, bill, small => by
    rw [List.length_cons] at small ⊢
    unfold Store.bill at bill
    split at bill
    · cases bill
    · next t _ =>
      split at bill
      · have next := start.add (by omega) (priceOf_atMost h t)
        have all := bill_atMost h next bill (by omega)
        rwa [Nat.add_right_comm, Nat.add_assoc] at all
      · cases bill

end Store

/-! ## 3. Reading totals -/

namespace Json

/-- The shortest decimal of a total is below `10 ^ 16`. -/
theorem exponentOf_total {n : Nat} {d : Number.Dyadic} (small : n < 2 ^ 22) (low : -1074 ≤ d.q)
    (le : units d.m d.q ≤ n * 2 ^ priceBits) (tie : Tie) :
    (d.shortest tie).digits = 0 ∨ exponentOf (d.shortest tie) < 16 := by
  obtain ⟨t, ht⟩ : ∃ t, t = 1076 := ⟨_, rfl⟩
  have bits : priceBits = 4 + t := by
    rw [priceBits_eq, ht]
  refine exponent_shortest low le ht ?_ tie
  calc 6 * (n * 2 ^ priceBits) = 96 * n * 2 ^ t := by
        rw [bits, Nat.pow_add, show 96 * n = 6 * (n * 2 ^ 4) by omega]
        ac_rfl
    _ < 10 ^ 16 * 2 ^ t := Nat.mul_lt_mul_of_pos_right (by omega) (Nat.two_pow_pos t)

/-- **A total that is not too great can be read.** -/
theorem exists_float64_tree {n : Nat} {x : Float} (small : n < 2 ^ 22) (h : PricesAtMost n x) :
    ∃ y, float64 (Value.float x).tree = .ok y := by
  obtain ⟨d, parts, low, le⟩ := h
  obtain ⟨y, amount⟩ := Numeral.exists_amount_ofDecimal false
    (exponentOf_total small low le floatStyle.tie)
  have tree : (Value.float x).tree = .number (.ofDecimal false (d.shortest floatStyle.tie)) := by
    rw [Value.tree, floatTree, parts]
  refine ⟨y, ?_⟩
  rw [tree, float64, amount]
  rfl

end Json

end BoxOffice
