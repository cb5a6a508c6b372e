import BoxOffice.Client.Call
import BoxOffice.Proofs.Number.Digits
import BoxOffice.Proofs.Text.Form
import BoxOffice.Server.Wire
import BoxOffice.Store.Search

/-!
# Criteria read back

* `Criterion.item?` -- what the box office has of a criterion, and `Suits` -- when a field can hold it;
* `readPairs_pairs` -- going through the pairs of criteria, one step for each that is present;
* `Query.read_encode` -- the fields of a written query are the criteria that were given;
* `locationQuery_encode`, `seatingQuery_encode` -- so both questions arrive as they were asked, but
  for empty words, which do not count: `findLocations_asked`;
* `questions_arrive` -- field by field: no value of one field touches another field.
-/

namespace BoxOffice

open BoxOffice.Number
open BoxOffice.Client (Criterion Criteria)
open BoxOffice.Server (QueryKind QueryItem QueryFault)

/-! ## 1. One criterion -/

namespace Client.Criterion

/-- What the box office has of a criterion that suits one of its fields. -/
def item? : Criterion → Option QueryItem
  | .text s => if s.isEmpty then none else some (.text s)
  | .integer n => some (.number n.toInt)
  | .natural n => some (.number n.toNat)
  | .absent | .float _ | .boolean _ => none

/-- The field can hold the criterion. -/
def Suits : QueryKind → Criterion → Prop
  | _, .absent => True
  | .text, .text _ => True
  | .number b, .integer n => -(b.down : Int) ≤ n.toInt ∧ n.toInt ≤ b.up
  | .number b, .natural n => n.toNat ≤ b.up
  | _, _ => False

/-- **A criterion that suits a field is nothing, or a pair whose value the field reads.** -/
theorem pair?_cases (name : String) {kind : QueryKind} {k : Criterion} (h : k.Suits kind) :
    (Criteria.pair? (name, k) = none ∧ k.item? = none) ∨
    ∃ s i, Criteria.pair? (name, k) = some (name, s) ∧ k.item? = some i ∧
      Server.Query.item kind s = .ok i := by
  have number : ∀ (b : Bounds) (n : Int), -(b.down : Int) ≤ n → n ≤ b.up →
      Server.Query.item (.number b) (String.ofList (intDigits n)) = .ok (.number n) := by
    intro b n low high
    rw [Server.Query.item, String.toList_ofList, read_intDigits low high]
    rfl
  cases k with
  | absent => exact Or.inl ⟨rfl, rfl⟩
  | text s =>
    cases kind with
    | number b => exact False.elim h
    | text =>
      cases empty : s.isEmpty with
      | true =>
        refine Or.inl ⟨?_, if_pos empty⟩
        rw [Criteria.pair?, isPresent, empty]
        rfl
      | false =>
        refine Or.inr ⟨s, .text s, ?_, if_neg (Bool.eq_false_iff.mp empty), rfl⟩
        rw [Criteria.pair?, isPresent, empty]
        rfl
  | integer n =>
    cases kind with
    | text => exact False.elim h
    | number b => exact Or.inr ⟨_, _, rfl, rfl, number b n.toInt h.1 h.2⟩
  | natural n =>
    cases kind with
    | text => exact False.elim h
    | number b =>
      have bound : n.toNat ≤ b.up := h
      exact Or.inr ⟨_, _, rfl, rfl, number b n.toNat (by omega) (by omega)⟩
  | float x => cases kind <;> exact False.elim h
  | boolean v => cases kind <;> exact False.elim h

end Client.Criterion

/-! ## 2. All criteria -/

namespace Server.Query

/-- The fields that criteria become. -/
def found (entries : List (String × Criterion)) : List (String × QueryItem) :=
  entries.filterMap fun e => e.2.item?.map (e.1, ·)

theorem found_cons (e : String × Criterion) (entries : List (String × Criterion)) :
    found (e :: entries) = (e.2.item?.map (e.1, ·)).toList ++ found entries := by
  rw [found, List.filterMap_cons]
  cases e.2.item? <;> rfl

/-- Every criterion has a field that can hold it. -/
def Fields (fields : List (String × QueryKind)) (entries : List (String × Criterion)) : Prop :=
  ∀ e ∈ entries, ∃ kind, fields.lookup e.1 = some kind ∧ e.2.Suits kind

/-- **Going through the pairs of criteria.** -/
theorem readPairs_pairs {fields : List (String × QueryKind)} :
    ∀ {entries : List (String × Criterion)} (before : List (String × QueryItem)),
      Fields fields entries → (entries.map Prod.fst).Nodup →
      (∀ e ∈ entries, before.lookup e.1 = none) →
      readPairs fields before (entries.filterMap Criteria.pair?) = .ok (before ++ found entries)
  | [], before, _, _, _ => by
    rw [found, List.filterMap_nil, List.filterMap_nil, List.append_nil, readPairs]
  | (name, k) :: entries, before, fits, distinct, fresh => by
    obtain ⟨kind, known, suits⟩ := fits (name, k) List.mem_cons_self
    obtain ⟨other, distinct⟩ := List.nodup_cons.mp distinct
    have rest : Fields fields entries := fun e mem => fits e (List.mem_cons_of_mem _ mem)
    have later : ∀ e ∈ entries, before.lookup e.1 = none := fun e mem =>
      fresh e (List.mem_cons_of_mem _ mem)
    rw [found_cons, List.filterMap_cons]
    obtain ⟨pair, item⟩ | ⟨s, i, pair, item, read⟩ := k.pair?_cases name suits
    · rw [pair, item]
      exact readPairs_pairs before rest distinct later
    · have unmet : ∀ e ∈ entries, (before ++ [(name, i)]).lookup e.1 = none := by
        intro e mem
        have ne : e.1 ≠ name := fun same => other (List.mem_map.mpr ⟨e, mem, same⟩)
        rw [List.lookup_append, later e mem, Option.none_or, List.lookup_cons, beq_eq_false_iff_ne.mpr ne]
        rfl
      have first : before.lookup name = none := fresh (name, k) List.mem_cons_self
      rw [pair, item]
      have step := readPairs_pairs (before ++ [(name, i)]) rest distinct unmet
      rw [List.append_assoc] at step
      simp only [readPairs, known, first, Option.isSome_none, Bool.false_eq_true, if_false, read]
      exact step

/-- What is found under a name is the criterion of that name. -/
theorem lookup_found (name : String) : ∀ {entries : List (String × Criterion)},
    (entries.map Prod.fst).Nodup → (found entries).lookup name =
      (entries.lookup name).bind Criterion.item?
  | [], _ => rfl
  | (n, k) :: entries, distinct => by
    obtain ⟨other, distinct⟩ := List.nodup_cons.mp distinct
    have ih := lookup_found name distinct
    rw [found_cons, List.lookup_append, List.lookup_cons, ih]
    by_cases same : name = n
    · have absent : entries.lookup name = none := by
        rw [List.lookup_eq_none_iff]
        intro e mem
        rw [bne_iff_ne, same]
        exact fun h => other (List.mem_map.mpr ⟨e, mem, h.symm⟩)
      have met : (name == n) = true := beq_iff_eq.mpr same
      rw [absent, met, Option.bind_none, Option.or_none, Option.bind_some]
      cases k.item? with
      | none => rfl
      | some i =>
        show List.lookup name [(n, i)] = some i
        rw [List.lookup_cons, met]
    · have unmet : (name == n) = false := beq_eq_false_iff_ne.mpr same
      rw [unmet]
      cases k.item? with
      | none => rfl
      | some i =>
        show (List.lookup name [(n, i)]).or _ = _
        rw [List.lookup_cons, unmet]
        rfl

/-- **The fields of a written query are the criteria given.** -/
theorem read_encode {fields : List (String × QueryKind)} {entries : List (String × Criterion)}
    (fits : Fields fields entries) (distinct : (entries.map Prod.fst).Nodup) :
    read fields (Form.encode (Criteria.ofEntries entries).pairs) = .ok (found entries) := by
  rw [read, Form.decode_encode, Criteria.pairs_ofEntries,
    readPairs_pairs [] fits distinct fun _ _ => rfl, List.nil_append]

/-- The text found under the name of a text is that text, unless it is empty. -/
theorem text?_found {entries : List (String × Criterion)} (distinct : (entries.map Prod.fst).Nodup)
    {name : String} {o : Option String}
    (h : entries.lookup name = some (.ofOption .text o)) :
    text? (found entries) name = o.filter (! ·.isEmpty) := by
  rw [text?, lookup_found name distinct, h, Option.bind_some]
  cases o with
  | none => rfl
  | some s =>
    rw [Option.filter_some]
    cases empty : s.isEmpty with
    | true => rw [Criterion.ofOption, Criterion.item?, if_pos empty]; rfl
    | false => rw [Criterion.ofOption, Criterion.item?, if_neg (Bool.eq_false_iff.mp empty)]; rfl

/-- The number found under the name of a number is that number. -/
theorem number?_found {α : Type} {entries : List (String × Criterion)}
    (distinct : (entries.map Prod.fst).Nodup) {name : String} {o : Option α} {f : α → Criterion}
    {value : α → Int} (number : ∀ a, (f a).item? = some (.number (value a)))
    (h : entries.lookup name = some (.ofOption f o)) :
    number? (found entries) name = o.map value := by
  rw [number?, lookup_found name distinct, h, Option.bind_some]
  cases o with
  | none => rfl
  | some a => rw [Criterion.ofOption, number]; rfl

end Server.Query

/-! ## 3. The two questions -/

/-- The words of a filter that count: an empty word does not. -/
def LocationFilter.asked (f : LocationFilter) : LocationFilter :=
  let word (o : Option String) := o.filter (! ·.isEmpty)
  ⟨word f.name, word f.address, word f.city, word f.country, word f.postalCode⟩

namespace Server

theorem suits_word (o : Option String) : (Criterion.ofOption .text o).Suits .text := by
  cases o <;> trivial

theorem suits_uint32 (o : Option UInt32) :
    (Criterion.ofOption (fun n : UInt32 => .natural n.toUInt64) o).Suits (.number .uint32) := by
  cases o with
  | none => trivial
  | some n =>
    have small := n.toNat_lt
    show n.toUInt64.toNat ≤ 0xFFFFFFFF
    rw [UInt32.toNat_toUInt64]
    omega

theorem suits_int64 (o : Option Int64) :
    (Criterion.ofOption .integer o).Suits (.number .int64) := by
  cases o with
  | none => trivial
  | some n =>
    have low := n.le_toInt
    have high := n.toInt_lt
    show -(0x8000000000000000 : Int) ≤ n.toInt ∧ n.toInt ≤ 0x7FFFFFFFFFFFFFFF
    omega

/-- The criteria of a search for locations. -/
def locationEntries (f : LocationFilter) (p : PageRequest) : List (String × Criterion) :=
  let number := Criterion.ofOption fun n : UInt32 => .natural n.toUInt64
  let word := Criterion.ofOption Criterion.text
  [("postalCode", word f.postalCode), ("pageSize", number p.size), ("address", word f.address),
   ("city", word f.city), ("country", word f.country), ("name", word f.name),
   ("pageIndex", number p.index)]

/-- The criteria of a question for an occupancy. -/
def seatingEntries (f : SeatingFilter) : List (String × Criterion) :=
  [("seatingPlanId", .ofOption .integer f.seatingPlanId),
   ("eventShowId", .ofOption .integer f.eventShowId)]

theorem fields_locationEntries (f : LocationFilter) (p : PageRequest) :
    Query.Fields locationFields (locationEntries f p) := by
  intro e mem
  simp only [locationEntries, List.mem_cons, List.not_mem_nil, or_false] at mem
  rcases mem with rfl | rfl | rfl | rfl | rfl | rfl | rfl
  · exact ⟨_, rfl, suits_word _⟩
  · exact ⟨_, rfl, suits_uint32 _⟩
  · exact ⟨_, rfl, suits_word _⟩
  · exact ⟨_, rfl, suits_word _⟩
  · exact ⟨_, rfl, suits_word _⟩
  · exact ⟨_, rfl, suits_word _⟩
  · exact ⟨_, rfl, suits_uint32 _⟩

theorem fields_seatingEntries (f : SeatingFilter) :
    Query.Fields seatingFields (seatingEntries f) := by
  intro e mem
  simp only [seatingEntries, List.mem_cons, List.not_mem_nil, or_false] at mem
  rcases mem with rfl | rfl
  · exact ⟨_, rfl, suits_int64 _⟩
  · exact ⟨_, rfl, suits_int64 _⟩

/-- **A search for locations arrives as it was asked.** -/
theorem locationQuery_encode (f : LocationFilter) (p : PageRequest) :
    locationQuery (Form.encode (Client.Call.locationCriteria f p).pairs) = .ok (f.asked, p) := by
  have distinct : ((locationEntries f p).map Prod.fst).Nodup :=
    show ["postalCode", "pageSize", "address", "city", "country", "name", "pageIndex"].Nodup by decide
  have read : Query.read locationFields (Form.encode (Client.Call.locationCriteria f p).pairs) =
      .ok (Query.found (locationEntries f p)) :=
    Query.read_encode (fields_locationEntries f p) distinct
  have word : ∀ (name : String) (o : Option String),
      (locationEntries f p).lookup name = some (.ofOption .text o) →
      Query.text? (Query.found (locationEntries f p)) name = o.filter (! ·.isEmpty) :=
    fun _ _ => Query.text?_found distinct
  have number : ∀ (name : String) (o : Option UInt32), (locationEntries f p).lookup name =
        some (.ofOption (fun n : UInt32 => .natural n.toUInt64) o) →
      Query.number? (Query.found (locationEntries f p)) name = o.map fun n => (n.toUInt64.toNat : Int) :=
    fun _ _ => Query.number?_found distinct fun _ => rfl
  have back : ((fun n : Int => UInt32.ofNat n.toNat) ∘ fun n : UInt32 => (n.toUInt64.toNat : Int)) = id := by
    funext n
    show UInt32.ofNat n.toUInt64.toNat = n
    rw [UInt32.toNat_toUInt64, UInt32.ofNat_toNat]
  rw [locationQuery, read]
  simp only [pure, Except.pure, bind, Except.bind, word "name" f.name rfl,
    word "address" f.address rfl, word "city" f.city rfl, word "country" f.country rfl,
    word "postalCode" f.postalCode rfl, number "pageIndex" p.index rfl, number "pageSize" p.size rfl,
    Option.map_map, back, Option.map_id, id]
  rfl

/-- **A question for an occupancy arrives as it was asked.** -/
theorem seatingQuery_encode (f : SeatingFilter) :
    seatingQuery (Form.encode (Client.Call.seatingCriteria f).pairs) = .ok f := by
  have distinct : ((seatingEntries f).map Prod.fst).Nodup :=
    show ["seatingPlanId", "eventShowId"].Nodup by decide
  have read : Query.read seatingFields (Form.encode (Client.Call.seatingCriteria f).pairs) =
      .ok (Query.found (seatingEntries f)) :=
    Query.read_encode (fields_seatingEntries f) distinct
  have number : ∀ (name : String) (o : Option Int64),
      (seatingEntries f).lookup name = some (.ofOption .integer o) →
      Query.number? (Query.found (seatingEntries f)) name = o.map Int64.toInt :=
    fun _ _ => Query.number?_found distinct fun _ => rfl
  have back : Int64.ofInt ∘ Int64.toInt = id := funext Int64.ofInt_toInt
  rw [seatingQuery, read]
  simp only [pure, Except.pure, bind, Except.bind, number "seatingPlanId" f.seatingPlanId rfl,
    number "eventShowId" f.eventShowId rfl, Option.map_map, back, Option.map_id, id]

end Server

/-- Every part contains the empty word. -/
theorem containsWanted_asked (part : String) (o : Option String) :
    containsWanted part (o.filter (! ·.isEmpty)) = containsWanted part o := by
  cases o with
  | none => rfl
  | some s =>
    rw [Option.filter_some]
    cases empty : s.isEmpty with
    | true =>
      rw [String.isEmpty_iff] at empty
      rw [empty]
      exact (Text.containsFolded_empty part).symm
    | false => rfl

/-- **An empty word finds what no word finds.** -/
theorem Store.findLocations_asked (s : Store) (f : LocationFilter) (p : PageRequest) :
    s.findLocations f.asked p = s.findLocations f p := by
  have same : f.asked.admits = f.admits := by
    funext l
    simp only [LocationFilter.admits, LocationFilter.asked, containsWanted_asked]
  rw [findLocations, findLocations, same]

/-! ## 4. Field by field -/

/-- A word as it arrives: an empty one is none. -/
def heard : Option String → Option String
  | none => none
  | some s => if s = "" then none else some s

theorem heard_eq_filter (o : Option String) : heard o = o.filter (! ·.isEmpty) := by
  cases o with
  | none => rfl
  | some s =>
    rw [heard, Option.filter_some]
    by_cases empty : s = ""
    · rw [if_pos empty, empty]
      rfl
    · have some_char : s.isEmpty = false := by rw [Bool.eq_false_iff, Ne, String.isEmpty_iff]; exact empty
      rw [if_neg empty, some_char]
      rfl

/-- What arrives of a search for locations, its criteria form-encoded and decoded. -/
def arrivingSearch (f : LocationFilter) (p : PageRequest) :
    Except QueryFault (LocationFilter × PageRequest) :=
  Server.locationQuery (Form.encode (Client.Call.locationCriteria f p).pairs)

/-- What arrives of a question for an occupancy. -/
def arrivingQuestion (f : SeatingFilter) : Except QueryFault SeatingFilter :=
  Server.seatingQuery (Form.encode (Client.Call.seatingCriteria f).pairs)

/-- **Both questions arrive, field by field as they were asked**, whatever characters the words have, but
    for an empty word, which arrives as none. So what arrives in a field depends on that field alone: with
    all other fields changed, the same arrives. -/
theorem questions_arrive :
    (∀ (f : LocationFilter) (p : PageRequest), arrivingSearch f p =
      .ok (⟨heard f.name, heard f.address, heard f.city, heard f.country, heard f.postalCode⟩,
        ⟨p.index, p.size⟩)) ∧
    (∀ f : SeatingFilter, arrivingQuestion f = .ok ⟨f.seatingPlanId, f.eventShowId⟩) ∧
    (∀ (f g : LocationFilter) (p q : PageRequest),
      (arrivingSearch f p).map (·.1.name) =
        (arrivingSearch { g with name := f.name } q).map (·.1.name) ∧
      (arrivingSearch f p).map (·.1.address) =
        (arrivingSearch { g with address := f.address } q).map (·.1.address) ∧
      (arrivingSearch f p).map (·.1.city) =
        (arrivingSearch { g with city := f.city } q).map (·.1.city) ∧
      (arrivingSearch f p).map (·.1.country) =
        (arrivingSearch { g with country := f.country } q).map (·.1.country) ∧
      (arrivingSearch f p).map (·.1.postalCode) =
        (arrivingSearch { g with postalCode := f.postalCode } q).map (·.1.postalCode) ∧
      (arrivingSearch f p).map (·.2.index) =
        (arrivingSearch g { q with index := p.index }).map (·.2.index) ∧
      (arrivingSearch f p).map (·.2.size) =
        (arrivingSearch g { q with size := p.size }).map (·.2.size)) ∧
    (∀ f g : SeatingFilter,
      (arrivingQuestion f).map (·.seatingPlanId) =
        (arrivingQuestion { g with seatingPlanId := f.seatingPlanId }).map (·.seatingPlanId) ∧
      (arrivingQuestion f).map (·.eventShowId) =
        (arrivingQuestion { g with eventShowId := f.eventShowId }).map (·.eventShowId)) := by
  have search : ∀ (f : LocationFilter) (p : PageRequest), arrivingSearch f p =
      .ok (⟨heard f.name, heard f.address, heard f.city, heard f.country, heard f.postalCode⟩, p) := by
    intro f p
    rw [arrivingSearch, Server.locationQuery_encode, LocationFilter.asked]
    simp only [heard_eq_filter]
  have question : ∀ f : SeatingFilter, arrivingQuestion f = .ok f := Server.seatingQuery_encode
  refine ⟨search, question, fun f g p q => ?_, fun f g => ?_⟩
  · simp only [search]
    exact ⟨rfl, rfl, rfl, rfl, rfl, rfl, rfl⟩
  · rw [question, question, question]
    exact ⟨rfl, rfl⟩

end BoxOffice
