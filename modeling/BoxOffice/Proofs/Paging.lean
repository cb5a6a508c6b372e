import Mathlib.Algebra.Order.Floor.Div
import Mathlib.Order.Bounds.Basic
import BoxOffice.Store.Search

/-!
# Pages partition what is found

A search is answered one page at a time. The pages of one length, put together in order, are all that the
search finds, each once: none is lost at the end of a page, and none comes on two.

* `Store.hits s f` -- the locations that a filter admits, with their keys, in ascending order;
* `pageOf size xs i` -- the elements of `xs` on the page with the index `i`;
* `pageCount_le_iff` -- how many pages there are; `flatMap_pageOf`, `length_pageOf` -- what they hold;
* `toNat_offset` -- where a page begins can be counted in a word of 64 bits;
* `Paging xs size page` -- the pages `page i` of length `size` partition `xs`;
* `pages_partition_hits` -- so do the pages of a search.
-/

namespace BoxOffice

/-! ## 1. Pages of a list -/

section Pages

variable {α : Type} {size : Nat}

/-- The elements on the page with the index `i`. -/
def pageOf (size : Nat) (xs : List α) (i : Nat) : List α := (xs.drop (i * size)).take size

/-- **As many pages are enough as hold all elements.** -/
theorem pageCount_le_iff (some_size : 0 < size) (total n : Nat) :
    pageCount total size ≤ n ↔ total ≤ n * size := by
  have rounded : pageCount total size = total ⌈/⌉ size := (Nat.ceilDiv_eq_add_pred_div total size).symm
  rw [rounded, ceilDiv_le_iff_le_mul some_size, Nat.mul_comm]

/-- There are no more pages than elements. -/
theorem pageCount_le (some_size : 0 < size) (total : Nat) : pageCount total size ≤ total :=
  (pageCount_le_iff some_size total total).mpr (Nat.le_mul_of_pos_right total some_size)

/-- **The first `n` pages, put together, are the first `n * size` elements.** -/
theorem flatMap_pageOf (xs : List α) (n : Nat) :
    (List.range n).flatMap (pageOf size xs) = xs.take (n * size) := by
  induction n with
  | zero => rw [Nat.zero_mul, List.take_zero, List.range_zero, List.flatMap_nil]
  | succ n ih =>
    rw [List.range_succ, List.flatMap_append, ih, List.flatMap_singleton, pageOf, Nat.succ_mul, List.take_add]

theorem length_pageOf (xs : List α) (i : Nat) :
    (pageOf size xs i).length = min size (xs.length - i * size) := by
  rw [pageOf, List.length_take, List.length_drop]

/-- A page before the last is full. -/
theorem length_pageOf_of_lt (some_size : 0 < size) {xs : List α} {i : Nat}
    (before : i + 1 < pageCount xs.length size) : (pageOf size xs i).length = size := by
  have more : ¬ xs.length ≤ (i + 1) * size := by
    rw [← pageCount_le_iff some_size]
    omega
  rw [Nat.succ_mul] at more
  rw [length_pageOf]
  omega

/-- No page that counts is empty. -/
theorem length_pageOf_pos (some_size : 0 < size) {xs : List α} {i : Nat}
    (counts : i < pageCount xs.length size) : 0 < (pageOf size xs i).length := by
  have more : ¬ xs.length ≤ i * size := by
    rw [← pageCount_le_iff some_size]
    omega
  rw [length_pageOf]
  omega

/-- After the last page there is nothing. -/
theorem pageOf_eq_nil (some_size : 0 < size) {xs : List α} {i : Nat}
    (after : pageCount xs.length size ≤ i) : pageOf size xs i = [] := by
  rw [pageCount_le_iff some_size] at after
  rw [pageOf, List.drop_eq_nil_of_le after, List.take_nil]

end Pages

/-- **Where a page begins can be counted in a word of 64 bits**, whatever the index and the length. -/
theorem toNat_offset (i size : UInt32) :
    (i.toUInt64 * size.toUInt64).toNat = i.toNat * size.toNat := by
  have fits : i.toNat * size.toNat < 2 ^ 32 * 2 ^ 32 := Nat.mul_lt_mul'' i.toNat_lt size.toNat_lt
  rw [UInt64.toNat_mul, UInt32.toNat_toUInt64, UInt32.toNat_toUInt64]
  exact Nat.mod_eq_of_lt fits

/-! ## 2. Partitions into pages -/

/-- **The pages of length `size` partition `xs`.** -/
structure Paging {α : Type} (xs : List α) (size : UInt32) (page : UInt32 → Page α) : Prop where
  /-- every page says which one it is -/
  labelled : ∀ i, (page i).index = i ∧ (page i).size = size
  /-- every page says how many elements there are -/
  elements : ∀ i, (page i).totalElements.toNat = xs.length
  /-- and how many pages: as few as hold them all -/
  count : ∀ i, IsLeast {n : Nat | xs.length ≤ n * size.toNat} (page i).totalPages.toNat
  totals : ∀ i j, (page i).totalElements = (page j).totalElements ∧ (page i).totalPages = (page j).totalPages
  /-- these pages, put together, are all there is -/
  joined : (List.range (page 0).totalPages.toNat).flatMap (fun i => (page (.ofNat i)).data) = xs
  full : ∀ i, i.toNat + 1 < (page i).totalPages.toNat → (page i).data.length = size.toNat
  last : ∀ i, i.toNat + 1 = (page i).totalPages.toNat →
    1 ≤ (page i).data.length ∧ (page i).data.length ≤ size.toNat
  beyond : ∀ i, (page i).totalPages.toNat ≤ i.toNat → (page i).data = []
  /-- a page begins where its index, counted in a word of 64 bits, says -/
  offset : ∀ i, (page i).data = (xs.drop (i.toUInt64 * size.toUInt64).toNat).take size.toNat

/-- The page with the index `i` of a list. -/
def Page.ofList {α : Type} (xs : List α) (size i : UInt32) : Page α where
  index := i
  size := size
  totalPages := .ofNat (pageCount xs.length size.toNat)
  totalElements := .ofNat xs.length
  data := pageOf size.toNat xs i.toNat

/-- **The pages of a list partition it**, unless there are too many to be counted. -/
theorem Paging.ofList {α : Type} (xs : List α) {size : UInt32} (some_size : size ≠ 0)
    (few : xs.length < 2 ^ 32) : Paging xs size (Page.ofList xs size) := by
  have pos : 0 < size.toNat := Nat.pos_of_ne_zero fun none => some_size (UInt32.toNat_inj.mp none)
  have countable : pageCount xs.length size.toNat < 2 ^ 32 := Nat.lt_of_le_of_lt (pageCount_le pos _) few
  have pages : ∀ i, (Page.ofList xs size i).totalPages.toNat = pageCount xs.length size.toNat := fun _ =>
    UInt32.toNat_ofNat_of_lt' countable
  have elements : ∀ i, (Page.ofList xs size i).totalElements.toNat = xs.length := fun _ =>
    UInt64.toNat_ofNat_of_lt' (Nat.lt_trans few (by decide))
  have enough : xs.length ≤ pageCount xs.length size.toNat * size.toNat :=
    (pageCount_le_iff pos _ _).mp (Nat.le_refl _)
  constructor
  case labelled => exact fun i => ⟨rfl, rfl⟩
  case elements => exact elements
  case count =>
    intro i
    rw [pages]
    exact ⟨enough, fun n holds_all => (pageCount_le_iff pos _ _).mpr holds_all⟩
  case totals => exact fun i j => ⟨rfl, rfl⟩
  case joined =>
    have data : ∀ i ∈ List.range (pageCount xs.length size.toNat),
        (Page.ofList xs size (.ofNat i)).data = pageOf size.toNat xs i := by
      intro i counts
      rw [List.mem_range] at counts
      rw [Page.ofList, UInt32.toNat_ofNat_of_lt' (Nat.lt_trans counts countable)]
    rw [pages, List.flatMap_congr data, flatMap_pageOf]
    exact List.take_of_length_le enough
  case full =>
    intro i before
    rw [pages] at before
    exact length_pageOf_of_lt pos before
  case last =>
    intro i final
    rw [pages] at final
    exact ⟨length_pageOf_pos pos (by omega), List.length_take_le _ _⟩
  case beyond =>
    intro i after
    rw [pages] at after
    exact pageOf_eq_nil pos after
  case offset =>
    intro i
    rw [toNat_offset]
    rfl

/-! ## 3. The pages of a search -/

namespace Store

/-- **The locations that a filter admits**, with their keys. -/
def hits (s : Store) (f : LocationFilter) : List (Int64 × Location) :=
  s.locations.entries.filter fun e => f.admits e.2

/-- They are in ascending order of their keys. -/
theorem hits_ascending (s : Store) (f : LocationFilter) : (s.hits f).Pairwise fun a b => a.1 < b.1 :=
  s.locations.ascending.filter _

/-- They are all that are stored and admitted. -/
theorem mem_hits_iff (s : Store) (f : LocationFilter) (k : Int64) (l : Location) :
    (k, l) ∈ s.hits f ↔ s.locations.get? k = some l ∧ f.admits l = true := by
  rw [hits, List.mem_filter]
  constructor
  · exact fun ⟨stored, admitted⟩ => ⟨Table.lookup_of_mem s.locations.ascending stored, admitted⟩
  · exact fun ⟨stored, admitted⟩ => ⟨Table.mem_of_lookup stored, admitted⟩

/-- **A search for a page is answered with that page of the hits.** -/
theorem findLocations_eq (s : Store) (f : LocationFilter) (p : PageRequest)
    (some_size : p.size.getD defaultPageSize ≠ 0) :
    s.findLocations f p = .ok (.ofList ((s.hits f).map (·.2)) (p.size.getD defaultPageSize) (p.index.getD 0)) := by
  have values : s.locations.values.filter f.admits = (s.hits f).map (·.2) := List.filter_map
  rw [findLocations, if_neg some_size, values]
  rfl

/-- **The pages of a search partition what it finds**, whatever the store, the filter and the length of the
    pages: put together in order, they are the locations that the filter admits, in ascending order of their
    keys, each once. A length and an index that are not given stand for the usual length and the first page. -/
theorem pages_partition_hits (s : Store) (f : LocationFilter) {size : UInt32} (some_size : size ≠ 0)
    (few : (s.hits f).length < 2 ^ 32) :
    (s.hits f).Pairwise (fun a b => a.1 < b.1) ∧
    (∀ k l, (k, l) ∈ s.hits f ↔ s.locations.get? k = some l ∧ f.admits l = true) ∧
    ∃ page : UInt32 → Page Location,
      (∀ p : PageRequest, p.size.getD defaultPageSize = size →
        s.findLocations f p = .ok (page (p.index.getD 0))) ∧
      Paging ((s.hits f).map (·.2)) size page := by
  refine ⟨s.hits_ascending f, s.mem_hits_iff f, Page.ofList ((s.hits f).map (·.2)) size, ?_, ?_⟩
  · rintro p rfl
    exact s.findLocations_eq f p some_size
  · exact .ofList _ some_size (by rwa [List.length_map])

/-- A search for what is in Vienna. -/
def inVienna : LocationFilter := ⟨none, none, some "wien", none, none⟩

/-- Two locations in Vienna are on the first page, and the third is on the second. -/
theorem pages_partition_hits_inVienna :
    (2 : UInt32) ≠ 0 ∧ (seeded.hits inVienna).length < 2 ^ 32 ∧
    (seeded.hits inVienna).map (·.1) = [1, 2, 3] ∧
    ∃ page : UInt32 → Page Location,
      (∀ p : PageRequest, p.size.getD defaultPageSize = 2 →
        seeded.findLocations inVienna p = .ok (page (p.index.getD 0))) ∧
      Paging ((seeded.hits inVienna).map (·.2)) 2 page ∧
      (page 1).data.map (·.name) = ["Arena"] := by
  have few : (seeded.hits inVienna).length < 2 ^ 32 := by decide +kernel
  have some_size : (2 : UInt32) ≠ 0 := by decide
  obtain ⟨_, _, page, found, paging⟩ := pages_partition_hits seeded inVienna some_size few
  have second : seeded.findLocations inVienna ⟨some 1, some 2⟩ =
      .ok ⟨1, 2, 2, 3, [⟨3, "Arena", "Baumgasse 80", "1030", "Wien", "Austria"⟩]⟩ := by decide +kernel
  have same : (⟨1, 2, 2, 3, [⟨3, "Arena", "Baumgasse 80", "1030", "Wien", "Austria"⟩]⟩ : Page Location) = page 1 :=
    Except.ok.inj (second.symm.trans (found ⟨some 1, some 2⟩ rfl))
  refine ⟨some_size, few, by decide +kernel, page, found, paging, ?_⟩
  rw [← same]
  rfl

end Store

end BoxOffice
