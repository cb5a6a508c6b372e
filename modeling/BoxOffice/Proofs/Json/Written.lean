import BoxOffice.Proofs.Json.Numeral
import BoxOffice.Proofs.Json.Quoted
import BoxOffice.Proofs.Json.Tokens

/-!
# Written values read back as their trees

* `Value.tree v` -- the tree of a value: complete, its texts and numbers as they are written;
* `scan_chars` -- the text of a value is cut into the tokens of its tree, whatever follows it;
* `ofText_write` -- so the text of a value is that tree, and nothing follows it.
-/

namespace BoxOffice.Json

open BoxOffice.Number

/-! ## 1. The tree of a value -/

/-- The tree of a written double; what is not finite is written as null. -/
def floatTree (x : Float) : Tree :=
  match Binary64.ofFloat x with
  | .finite negative d => .number (.ofDecimal negative (d.shortest floatStyle.tie))
  | _ => .null

mutual

/-- **The tree of a value.** -/
def Value.tree : Value → Tree
  | .null => .null
  | .boolean b => .boolean b
  | .integer n => .number (.ofInt n)
  | .float x => floatTree x
  | .text s => .text (.ofText s)
  | .list vs => .list (Value.itemTrees vs) .closed
  | .object ms => .object (Value.memberTrees ms) .closed

/-- The trees of items. -/
def Value.itemTrees : List Value → List Tree
  | [] => []
  | v :: vs => v.tree :: Value.itemTrees vs

/-- The trees of members. -/
def Value.memberTrees : List (String × Value) → List (Quoted × Tree)
  | [] => []
  | m :: ms => Value.memberTree m :: Value.memberTrees ms

/-- The tree of a member. -/
def Value.memberTree : String × Value → Quoted × Tree
  | (k, v) => (.ofText k, v.tree)

end

/-! ## 2. The tokens of a text -/

namespace Token

theorem scan_openList (cs : List Char) : scan ('[' :: cs) = .openList :: scan cs :=
  scan_token rfl cs

theorem scan_closeList (cs : List Char) : scan (']' :: cs) = .closeList :: scan cs :=
  scan_token rfl cs

theorem scan_openObject (cs : List Char) : scan ('{' :: cs) = .openObject :: scan cs :=
  scan_token rfl cs

theorem scan_closeObject (cs : List Char) : scan ('}' :: cs) = .closeObject :: scan cs :=
  scan_token rfl cs

theorem scan_comma (cs : List Char) : scan (',' :: cs) = .comma :: scan cs :=
  scan_token rfl cs

theorem scan_colon (cs : List Char) : scan (':' :: cs) = .colon :: scan cs :=
  scan_token rfl cs

/-- A written text is one token. -/
theorem scan_writeText (s : String) (rest : List Char) :
    scan (writeText s ++ rest) = .quoted (.ofText s) :: scan rest := by
  have cut : Quoted.scan (s.toList.flatMap writeChar ++ '"' :: rest) = (.ofText s, rest) :=
    Quoted.scan_writeChars rest s.toList
  have text : writeText s ++ rest = '"' :: (s.toList.flatMap writeChar ++ '"' :: rest) := by
    simp [writeText]
  have first_eq : first '"' (s.toList.flatMap writeChar ++ '"' :: rest) =
      (.quoted (.ofText s), rest) := by
    simp only [first, cut]
    rfl
  rw [text, scan_token rfl, first_eq]

/-- A written double is one token, that of its tree. -/
theorem scan_writeFloat (x : Float) {rest : List Char} (h : Ends rest) :
    scan (writeFloat x ++ rest) = (floatTree x).tokens ++ scan rest := by
  unfold writeFloat floatTree
  cases Binary64.ofFloat x with
  | finite negative d =>
    simp only [FloatStyle.writeParts, List.append_assoc]
    exact scan_writeDecimal negative _ h
  | nan | infinite => exact scan_token rfl _

end Token

/-! ## 3. Reading the text of a value -/

/-- Nothing is missing in the tree of a written double. -/
theorem complete_floatTree (x : Float) : (floatTree x).Complete := by
  unfold floatTree
  split
  · exact .number _
  · exact .null

mutual

/-- Nothing is missing in the tree of a value. -/
theorem Value.complete_tree : ∀ v : Value, v.tree.Complete
  | .null => .null
  | .boolean b => .boolean b
  | .integer n => .number (.ofInt n)
  | .float x => complete_floatTree x
  | .text s => .text (Quoted.isClosed_ofText s)
  | .list vs => .list (Value.complete_itemTrees vs)
  | .object ms =>
    .object (fun m h => (Value.complete_memberTrees ms m h).1) fun m h => (Value.complete_memberTrees ms m h).2

/-- Nor in those of items. -/
theorem Value.complete_itemTrees : ∀ (vs : List Value), ∀ t ∈ Value.itemTrees vs, t.Complete
  | v :: vs, t, h => by
    rcases List.mem_cons.mp h with rfl | h
    · exact Value.complete_tree v
    · exact Value.complete_itemTrees vs t h

/-- Nor in those of members. -/
theorem Value.complete_memberTrees : ∀ (ms : List (String × Value)), ∀ m ∈ Value.memberTrees ms,
    m.1.isClosed = true ∧ m.2.Complete
  | (k, v) :: ms, m, h => by
    rcases List.mem_cons.mp h with rfl | h
    · exact ⟨Quoted.isClosed_ofText k, Value.complete_tree v⟩
    · exact Value.complete_memberTrees ms m h

end

mutual

/-- **The text of a value is cut into the tokens of its tree**, whatever follows it. -/
theorem scan_chars : ∀ (v : Value) {rest : List Char}, Ends rest →
    Token.scan (v.chars ++ rest) = v.tree.tokens ++ Token.scan rest
  | .null, rest, _ => Token.scan_token rfl _
  | .boolean true, rest, _ => Token.scan_token rfl _
  | .boolean false, rest, _ => Token.scan_token rfl _
  | .integer n, rest, h => Token.scan_intDigits n h
  | .float x, rest, h => Token.scan_writeFloat x h
  | .text s, rest, _ => Token.scan_writeText s rest
  | .list vs, rest, _ => by
    rw [Value.chars, List.cons_append, List.cons_append, List.append_assoc, List.singleton_append,
      Token.scan_openList, scan_itemChars vs rest, Token.scan_closeList, Value.tree, Tree.tokens, List.cons_append,
      List.append_assoc]
    rfl
  | .object ms, rest, _ => by
    rw [Value.chars, List.cons_append, List.cons_append, List.append_assoc, List.singleton_append,
      Token.scan_openObject, scan_memberChars ms rest, Token.scan_closeObject, Value.tree, Tree.tokens,
      List.cons_append, List.append_assoc]
    rfl

/-- So is the text of items. -/
theorem scan_itemChars : ∀ (vs : List Value) (rest : List Char),
    Token.scan (Value.itemChars vs ++ ']' :: rest) =
      Tree.itemTokens (Value.itemTrees vs) ++ Token.scan (']' :: rest)
  | [], rest => rfl
  | [v], rest => scan_chars v (ends_bracket rest)
  | v :: w :: vs, rest => by
    rw [Value.itemChars, List.append_assoc, List.cons_append, scan_chars v (ends_comma _), Token.scan_comma,
      scan_itemChars (w :: vs) rest]
    exact (List.append_assoc v.tree.tokens (.comma :: Tree.itemTokens (Value.itemTrees (w :: vs))) _).symm

/-- So is the text of members. -/
theorem scan_memberChars : ∀ (ms : List (String × Value)) (rest : List Char),
    Token.scan (Value.memberChars ms ++ '}' :: rest) =
      Tree.memberTokens (Value.memberTrees ms) ++ Token.scan ('}' :: rest)
  | [], rest => rfl
  | [m], rest => scan_memberChar m (ends_brace rest)
  | m :: n :: ms, rest => by
    rw [Value.memberChars, List.append_assoc, List.cons_append, scan_memberChar m (ends_comma _),
      Token.scan_comma, scan_memberChars (n :: ms) rest]
    exact (List.append_assoc (Tree.memberToken (Value.memberTree m))
      (.comma :: Tree.memberTokens (Value.memberTrees (n :: ms))) _).symm

/-- So is the text of a member. -/
theorem scan_memberChar : ∀ (m : String × Value) {rest : List Char}, Ends rest →
    Token.scan (Value.memberChar m ++ rest) = Tree.memberToken (Value.memberTree m) ++ Token.scan rest
  | (k, v), rest, h => by
    rw [Value.memberChar, List.append_assoc, Token.scan_writeText, List.cons_append, Token.scan_colon,
      scan_chars v h]
    rfl

end

/-- **The text of a value is its tree, and nothing follows it.** -/
theorem ofText_write (v : Value) : Tree.ofText v.write = (v.tree, false) := by
  have tokens := scan_chars v ends_nil
  rw [List.append_nil, Token.scan_nil, List.append_nil] at tokens
  rw [Tree.ofText, Value.write, String.toList_ofList, tokens, Tree.ofTokens_tokens v.complete_tree]

/-- **Reading the text of a value is reading its tree.** -/
theorem read_write {α : Type} (r : Reader α) (v : Value) : Reader.read r v.write = r v.tree := by
  rw [Reader.read, ofText_write]
  cases r v.tree <;> rfl

end BoxOffice.Json
