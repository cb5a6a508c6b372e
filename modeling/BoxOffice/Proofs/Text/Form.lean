import BoxOffice.Proofs.Text.Utf8
import BoxOffice.Text.Form

/-!
# Form-encoded pairs read back

* `decode_encodeByte` -- the written form of a byte stands for that byte, whatever follows it;
* `decodeText_encodeText` -- so a name or a value reads back;
* `decode_encode` -- no written form holds a separator, so a list of pairs reads back.
-/

namespace BoxOffice

open BoxOffice.Text

/-! ## 1. Escapes -/

namespace Percent

/-- A byte that is no percent sign stands for itself. -/
theorem decode_cons_of_ne {b : UInt8} (h : b ≠ 0x25) : ∀ rest : List UInt8,
    decode (b :: rest) = b :: decode rest
  | [] | [_] => by rw [decode]; simp
  | _ :: _ :: _ => by rw [decode, if_neg h]

/-- The escape of a byte stands for it. -/
theorem decode_escape (b : UInt8) (rest : List UInt8) :
    decode (0x25 :: .ofNat (upperHexDigit (b.toNat / 16)).toNat ::
      .ofNat (upperHexDigit (b.toNat % 16)).toNat :: rest) = b :: decode rest := by
  have small := b.toNat_lt
  have ascii : ∀ d < 16, (UInt8.ofNat (upperHexDigit d).toNat).toNat = (upperHexDigit d).toNat := by
    decide
  have value : escaped? (.ofNat (upperHexDigit (b.toNat / 16)).toNat)
      (.ofNat (upperHexDigit (b.toNat % 16)).toNat) = some b := by
    have both : 16 * (b.toNat / 16) + b.toNat % 16 = b.toNat := Nat.div_add_mod b.toNat 16
    rw [escaped?, ascii _ (by omega), ascii _ (by omega), hexValue?_upperHexDigit _ (by omega),
      hexValue?_upperHexDigit _ (by omega)]
    simp only [Option.bind_eq_bind, Option.bind_some, both, UInt8.ofNat_toNat]
    rfl
  rw [decode, if_pos rfl, value]

end Percent

namespace Form

/-! ## 2. Bytes -/

theorem toNat_charOfNat : ∀ n < 0x80, (Char.ofNat n).toNat = n := by
  decide

/-- A byte that stands for itself is a character of its own, and none of the marks. -/
theorem toNat_of_isPlain {b : UInt8} (h : isPlain b = true) :
    b.toNat < 0x80 ∧ b.toNat ≠ 0x23 ∧ b.toNat ≠ 0x25 ∧ b.toNat ≠ 0x26 ∧ b.toNat ≠ 0x2B ∧
      b.toNat ≠ 0x3D := by
  simp only [isPlain, Bool.or_eq_true, decide_eq_true_eq, beq_iff_eq] at h
  omega

/-- The characters that divide pairs, and the one that ends a query. -/
def IsMark (c : Char) : Prop := c.toNat = 0x26 ∨ c.toNat = 0x3D ∨ c.toNat = 0x23

/-- **No mark stands in the written form of a byte.** -/
theorem not_mem_encodeByte {c : Char} (hc : IsMark c) (b : UInt8) : c ∉ encodeByte b := by
  have digits : ∀ d < 16, 0x30 ≤ (upperHexDigit d).toNat ∧ (upperHexDigit d).toNat ≤ 0x46 ∧
      (upperHexDigit d).toNat ≠ 0x3D := by decide
  have small := b.toNat_lt
  unfold IsMark at hc
  unfold encodeByte
  split
  · next h =>
    have plain := toNat_of_isPlain h
    have code := toNat_charOfNat _ plain.1
    rw [List.mem_singleton]
    rintro rfl
    omega
  · split
    · rw [List.mem_singleton]
      rintro rfl
      revert hc
      decide
    · have high := digits (b.toNat / 16) (by omega)
      have low := digits (b.toNat % 16) (by omega)
      have percent : '%'.toNat = 0x25 := rfl
      simp only [Percent.escape, List.mem_cons, List.not_mem_nil, or_false]
      rintro (rfl | rfl | rfl) <;> omega

/-- **The written form of a byte stands for that byte**, whatever follows it. -/
theorem decode_encodeByte (b : UInt8) (rest : List UInt8) :
    Percent.decode (Utf8.encode ((encodeByte b).map plusToSpace) ++ rest) =
      b :: Percent.decode rest := by
  unfold encodeByte
  split
  · next h =>
    obtain ⟨ascii, _, percent, _, plus, _⟩ := toNat_of_isPlain h
    have code := toNat_charOfNat _ ascii
    have same : plusToSpace (Char.ofNat b.toNat) = Char.ofNat b.toNat := by
      refine if_neg fun e => plus ?_
      rw [← code, e]
      rfl
    have bytes : Utf8.encodeChar (Char.ofNat b.toNat) = [b] := by
      rw [Utf8.encodeChar, code]
      simp only [if_pos ascii, UInt8.ofNat_toNat]
    rw [List.map_cons, same, Utf8.encode_cons, bytes]
    refine Percent.decode_cons_of_ne (fun e => percent ?_) rest
    rw [e]
    rfl
  · split
    · next h =>
      rw [h]
      exact Percent.decode_cons_of_ne (by decide) rest
    · have small := b.toNat_lt
      have digits : ∀ d < 16, plusToSpace (upperHexDigit d) = upperHexDigit d ∧
          Utf8.encodeChar (upperHexDigit d) = [.ofNat (upperHexDigit d).toNat] := by decide
      have high := digits (b.toNat / 16) (by omega)
      have low := digits (b.toNat % 16) (by omega)
      have mark : Utf8.encodeChar (plusToSpace '%') = [0x25] := rfl
      simp only [Percent.escape, List.map_cons, List.map_nil, Utf8.encode_cons, Utf8.encode_nil, mark,
        high.1, high.2, low.1, low.2, List.cons_append, List.nil_append]
      exact Percent.decode_escape b rest

/-! ## 3. Texts -/

theorem decode_encodeBytes : ∀ bs : List UInt8,
    Percent.decode (Utf8.encode ((bs.flatMap encodeByte).map plusToSpace)) = bs
  | [] => by
    rw [List.flatMap_nil, List.map_nil, Utf8.encode_nil, Percent.decode]
  | b :: bs => by
    have split : ∀ xs ys : List Char, Utf8.encode (xs ++ ys) = Utf8.encode xs ++ Utf8.encode ys :=
      fun _ _ => List.flatMap_append
    rw [List.flatMap_cons, List.map_append, split, decode_encodeByte, decode_encodeBytes bs]

/-- **A name or a value reads back.** -/
@[simp] theorem decodeText_encodeText (s : String) : decodeText (encodeText s) = s := by
  rw [decodeText, encodeText, decode_encodeBytes, Utf8.decodeLossy_encode, String.ofList_toList]

theorem not_mem_encodeText {c : Char} (hc : IsMark c) (s : String) : c ∉ encodeText s := by
  rw [encodeText, List.mem_flatMap]
  rintro ⟨b, _, h⟩
  exact not_mem_encodeByte hc b h

/-! ## 4. Pairs -/

theorem not_mem_encodePair {c : Char} (hc : IsMark c) (other : c ≠ '=') (p : String × String) :
    c ∉ encodePair p := by
  rw [encodePair, List.mem_append, List.mem_cons]
  rintro (h | h | h)
  · exact not_mem_encodeText hc _ h
  · exact other h
  · exact not_mem_encodeText hc _ h

theorem amp_not_mem_encodePair (p : String × String) : '&' ∉ encodePair p :=
  not_mem_encodePair (Or.inl rfl) (by decide) p

/-- The written form of pairs has no fragment. -/
theorem hash_not_mem_encodeChars : ∀ ps : List (String × String), '#' ∉ encodeChars ps
  | [] => List.not_mem_nil
  | [p] => not_mem_encodePair (Or.inr (Or.inr rfl)) (by decide) p
  | p :: q :: ps => by
    rw [encodeChars, List.mem_append, List.mem_cons]
    rintro (h | h | h)
    · exact not_mem_encodePair (Or.inr (Or.inr rfl)) (by decide) p h
    · exact absurd h (by decide)
    · exact hash_not_mem_encodeChars (q :: ps) h

theorem decodePiece_encodePair (p : String × String) : decodePiece (encodePair p) = p := by
  rw [decodePiece, encodePair, cutAt_append _ (not_mem_encodeText (Or.inr (Or.inl rfl)) p.1)]
  simp

theorem splitOn_encodeChars : ∀ {ps : List (String × String)}, ps ≠ [] →
    splitOn '&' (encodeChars ps) = ps.map encodePair
  | [p], _ => splitOn_of_not_mem (amp_not_mem_encodePair p)
  | p :: q :: ps, _ => by
    rw [encodeChars, splitOn_append _ (amp_not_mem_encodePair p),
      splitOn_encodeChars (List.cons_ne_nil q ps)]
    rfl

/-- **A list of pairs reads back.** -/
@[simp] theorem decode_encode (ps : List (String × String)) : decode (encode ps) = ps := by
  by_cases h : ps = []
  · rw [h, encode_nil, decode_empty]
  · have kept : (ps.map encodePair).filter (! ·.isEmpty) = ps.map encodePair := by
      rw [List.filter_eq_self]
      intro piece hpiece
      obtain ⟨p, _, rfl⟩ := List.mem_map.mp hpiece
      simp [encodePair]
    have each : decodePiece ∘ encodePair = id := funext decodePiece_encodePair
    rw [decode, encode, String.toList_ofList, splitOn_encodeChars h, kept, List.map_map, each,
      List.map_id]

end Form

end BoxOffice
