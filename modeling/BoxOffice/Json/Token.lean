import BoxOffice.Json.Numeral
import BoxOffice.Json.Quoted

/-!
# The words of a JSON text

`Token.scan cs` cuts a text into tokens. White space between them is dropped. What cannot be a
token is one all the same, so that cutting never fails: a text without its closing mark, a word
that is none of the three, a number that breaks off, a stray character. Such a token is the last
one, because nothing after it can be told apart.

* `scan_nil`, `scan_space`, `scan_token` -- nothing is cut out of an empty text, white space is dropped, and any other
  character begins a token.
-/

namespace BoxOffice.Json

/-- A word of a JSON text. -/
inductive Token where
  | openList
  | closeList
  | openObject
  | closeObject
  | comma
  | colon
  | null
  | boolean (b : Bool)
  | number (n : Numeral)
  | quoted (q : Quoted)
  /-- a word that begins like `null`, `true` or `false` and goes wrong, or breaks off -/
  | brokenWord (atEnd : Bool)
  /-- a number that goes wrong, or breaks off -/
  | brokenNumber (atEnd : Bool)
  /-- a character that begins no token -/
  | stray (c : Char)
  deriving DecidableEq, Repr

namespace Token

/-! ## 1. Words -/

/-- White space between tokens. -/
def isSpace (c : Char) : Bool := c == ' ' || c == '\t' || c == '\n' || c == '\r'

/-- The characters after the word `word`; otherwise whether the input ends inside it. -/
def afterWord : List Char → List Char → Except Bool (List Char)
  | [], cs => .ok cs
  | _ :: _, [] => .error true
  | w :: ws, c :: cs => if w = c then afterWord ws cs else .error false

/-- The token `t` if the word `word` follows, and the characters after it. -/
def scanWord (t : Token) (word cs : List Char) : Token × List Char :=
  match afterWord word cs with
  | .ok rest => (t, rest)
  | .error atEnd => (.brokenWord atEnd, [])

/-! ## 2. Numbers -/

/-- The character is an ASCII digit. -/
def isDigit (c : Char) : Bool := decide ('0' ≤ c) && decide (c ≤ '9')

/-- The values of the digits at the start of a text. -/
def leadingDigits (cs : List Char) : List Nat :=
  (cs.takeWhile isDigit).map fun c => c.toNat - '0'.toNat

/-- The sign of an exponent (`true` is minus), and what follows it. -/
def exponentSign : List Char → Bool × List Char
  | '-' :: cs => (true, cs)
  | '+' :: cs => (false, cs)
  | cs => (false, cs)

/-- A number up to its exponent, and what may be the exponent. -/
def scanExponent (negative : Bool) (whole fraction : List Nat) (cs : List Char) :
    Token × List Char :=
  match cs with
  | e :: rest =>
    if e = 'e' ∨ e = 'E' then
      let (down, digits) := exponentSign rest
      match leadingDigits digits with
      | [] => (.brokenNumber digits.isEmpty, [])
      | ds => (.number ⟨negative, whole, fraction, some (down, ds)⟩, digits.dropWhile isDigit)
    else (.number ⟨negative, whole, fraction, none⟩, e :: rest)
  | [] => (.number ⟨negative, whole, fraction, none⟩, [])

/-- A number up to its point, and what may be the fraction. -/
def scanFraction (negative : Bool) (whole : List Nat) (cs : List Char) : Token × List Char :=
  match cs with
  | '.' :: rest =>
    match leadingDigits rest with
    | [] => (.brokenNumber rest.isEmpty, [])
    | ds => scanExponent negative whole ds (rest.dropWhile isDigit)
  | cs => scanExponent negative whole [] cs

/-- A number after its sign. No digit stands after a leading zero. -/
def scanNumber (negative : Bool) (cs : List Char) : Token × List Char :=
  match leadingDigits cs with
  | [] => (.brokenNumber cs.isEmpty, [])
  | 0 :: _ :: _ => (.brokenNumber false, [])
  | ds => scanFraction negative ds (cs.dropWhile isDigit)

/-! ## 3. Cutting -/

/-- The token that begins with `c`, and the characters after it; `c` is no white space. -/
def first (c : Char) (cs : List Char) : Token × List Char :=
  match c with
  | '[' => (.openList, cs)
  | ']' => (.closeList, cs)
  | '{' => (.openObject, cs)
  | '}' => (.closeObject, cs)
  | ',' => (.comma, cs)
  | ':' => (.colon, cs)
  | 'n' => scanWord .null ['u', 'l', 'l'] cs
  | 't' => scanWord (.boolean true) ['r', 'u', 'e'] cs
  | 'f' => scanWord (.boolean false) ['a', 'l', 's', 'e'] cs
  | '"' =>
    let (q, rest) := Quoted.scan cs
    (.quoted q, if q.isClosed then rest else [])
  | '-' => scanNumber true cs
  | c => if isDigit c then scanNumber false (c :: cs) else (.stray c, [])

theorem length_dropWhile_le (p : Char → Bool) (cs : List Char) :
    (cs.dropWhile p).length ≤ cs.length :=
  (List.dropWhile_suffix p).length_le

theorem afterWord_length_le : ∀ {word cs rest : List Char},
    afterWord word cs = .ok rest → rest.length ≤ cs.length
  | [], _, _, h => by cases h; exact Nat.le_refl _
  | _ :: _, [], _, h => by cases h
  | w :: ws, c :: cs, rest, h => by
    unfold afterWord at h
    split at h
    · exact Nat.le_succ_of_le (afterWord_length_le h)
    · cases h

theorem scanWord_length_le (t : Token) (word cs : List Char) :
    (scanWord t word cs).2.length ≤ cs.length := by
  unfold scanWord
  split
  · next h => exact afterWord_length_le h
  · exact Nat.zero_le _

theorem exponentSign_length_le (cs : List Char) : (exponentSign cs).2.length ≤ cs.length := by
  unfold exponentSign
  split <;> simp

theorem scanExponent_length_le (b : Bool) (w f : List Nat) (cs : List Char) :
    (scanExponent b w f cs).2.length ≤ cs.length := by
  unfold scanExponent
  cases cs with
  | nil => exact Nat.le_refl _
  | cons e rest =>
    dsimp only
    split
    · have h1 := exponentSign_length_le rest
      split
      · exact Nat.zero_le _
      · have h2 := length_dropWhile_le isDigit (exponentSign rest).2
        simp only [List.length_cons]
        omega
    · exact Nat.le_refl _

theorem scanFraction_length_le (b : Bool) (w : List Nat) (cs : List Char) :
    (scanFraction b w cs).2.length ≤ cs.length := by
  unfold scanFraction
  split
  · next rest =>
    split
    · exact Nat.zero_le _
    · have h1 := scanExponent_length_le b w (leadingDigits rest) (rest.dropWhile isDigit)
      have h2 := length_dropWhile_le isDigit rest
      simp only [List.length_cons]
      omega
  · exact scanExponent_length_le _ _ _ _

theorem scanNumber_cons_length_le (b : Bool) (c : Char) (cs : List Char) (h : isDigit c = true) :
    (scanNumber b (c :: cs)).2.length ≤ cs.length := by
  unfold scanNumber
  split
  · exact Nat.zero_le _
  · exact Nat.zero_le _
  · have h1 := scanFraction_length_le b (leadingDigits (c :: cs)) ((c :: cs).dropWhile isDigit)
    have h2 := length_dropWhile_le isDigit cs
    rw [List.dropWhile_cons_of_pos h] at h1 ⊢
    omega

theorem scanNumber_length_le (b : Bool) (cs : List Char) :
    (scanNumber b cs).2.length ≤ cs.length := by
  unfold scanNumber
  split
  · exact Nat.zero_le _
  · exact Nat.zero_le _
  · have h1 := scanFraction_length_le b (leadingDigits cs) (cs.dropWhile isDigit)
    have h2 := length_dropWhile_le isDigit cs
    omega

/-- A token takes its first character at least. -/
theorem first_length_le (c : Char) (cs : List Char) : (first c cs).2.length ≤ cs.length := by
  unfold first
  split
  case h_1 | h_2 | h_3 | h_4 | h_5 | h_6 => exact Nat.le_refl _
  case h_7 | h_8 | h_9 => exact scanWord_length_le _ _ _
  case h_10 =>
    dsimp only
    split
    · exact Quoted.scan_length_le cs
    · exact Nat.zero_le _
  case h_11 => exact scanNumber_length_le _ _
  case h_12 =>
    split
    · next h => exact scanNumber_cons_length_le false _ cs h
    · exact Nat.zero_le _

/-- **The tokens of a text.** -/
def scan : List Char → List Token
  | [] => []
  | c :: cs =>
    if isSpace c then scan cs
    else (first c cs).1 :: scan (first c cs).2
termination_by cs => cs.length
decreasing_by
  · exact Nat.lt_succ_self _
  · exact Nat.lt_succ_of_le (first_length_le c cs)

@[simp] theorem scan_nil : scan [] = [] := by
  rw [scan]

/-- White space is dropped. -/
theorem scan_space {c : Char} (h : isSpace c = true) (cs : List Char) :
    scan (c :: cs) = scan cs := by
  rw [scan, if_pos h]

/-- Any other character begins a token. -/
theorem scan_token {c : Char} (h : isSpace c = false) (cs : List Char) :
    scan (c :: cs) = (first c cs).1 :: scan (first c cs).2 := by
  rw [scan, if_neg (by simp [h])]

end Token

end BoxOffice.Json
