/-!
# UTF-8

* `Utf8.encode cs` -- the bytes of a text;
* `Utf8.scan bytes` -- the characters in a byte sequence, with `none` for each ill-formed piece. A
  piece is the longest beginning of a character's bytes that is found where no whole character is,
  and one byte if there is none;
* `Utf8.decode? bytes` -- the text, if nothing is ill-formed;
* `Utf8.decodeLossy bytes` -- the text with U+FFFD for each ill-formed piece.
-/

namespace BoxOffice.Utf8

/-! ## 1. Encoding -/

/-- The bytes of one character. -/
def encodeChar (c : Char) : List UInt8 :=
  let n := c.toNat
  if n < 0x80 then [.ofNat n]
  else if n < 0x800 then [.ofNat (0xC0 + n / 0x40), .ofNat (0x80 + n % 0x40)]
  else if n < 0x10000 then
    [.ofNat (0xE0 + n / 0x1000), .ofNat (0x80 + n / 0x40 % 0x40), .ofNat (0x80 + n % 0x40)]
  else
    [.ofNat (0xF0 + n / 0x40000), .ofNat (0x80 + n / 0x1000 % 0x40),
     .ofNat (0x80 + n / 0x40 % 0x40), .ofNat (0x80 + n % 0x40)]

/-- The bytes of a text. -/
def encode (cs : List Char) : List UInt8 := cs.flatMap encodeChar

@[simp] theorem encode_nil : encode [] = [] := rfl

@[simp] theorem encode_cons (c : Char) (cs : List Char) :
    encode (c :: cs) = encodeChar c ++ encode cs := by
  simp [encode]

/-! ## 2. Decoding -/

/-- The byte can stand inside a character, after its first byte. -/
def isTail (b : UInt8) : Bool := decide (0x80 ≤ b.toNat) && decide (b.toNat < 0xC0)

/-- The six bits that a byte inside a character carries. -/
def tailBits (b : UInt8) : Nat := b.toNat % 0x40

/-- The second byte of a three-byte character with the first byte `b`: neither a longer form than
    needed nor a surrogate. -/
def isSecondOfThree (b c : UInt8) : Bool :=
  isTail c && !(b.toNat == 0xE0 && decide (c.toNat < 0xA0))
    && !(b.toNat == 0xED && decide (0xA0 ≤ c.toNat))

/-- The second byte of a four-byte character with the first byte `b`: neither a longer form than
    needed nor beyond U+10FFFF. -/
def isSecondOfFour (b c : UInt8) : Bool :=
  isTail c && !(b.toNat == 0xF0 && decide (c.toNat < 0x90))
    && !(b.toNat == 0xF4 && decide (0x90 ≤ c.toNat))

/-- The character that begins with the byte `b`, or `none` for an ill-formed piece, and the bytes
    after it. -/
def step (b : UInt8) (bs : List UInt8) : Option Char × List UInt8 :=
  let n := b.toNat
  if n < 0x80 then (some (Char.ofNat n), bs)
  else if n < 0xC2 then (none, bs)
  else if n < 0xE0 then
    match bs with
    | c :: cs =>
      if isTail c then (some (Char.ofNat (n % 0x20 * 0x40 + tailBits c)), cs) else (none, c :: cs)
    | [] => (none, [])
  else if n < 0xF0 then
    match bs with
    | c :: cs =>
      if isSecondOfThree b c then
        match cs with
        | d :: ds =>
          if isTail d then
            (some (Char.ofNat (n % 0x10 * 0x1000 + tailBits c * 0x40 + tailBits d)), ds)
          else (none, d :: ds)
        | [] => (none, [])
      else (none, c :: cs)
    | [] => (none, [])
  else if n < 0xF5 then
    match bs with
    | c :: cs =>
      if isSecondOfFour b c then
        match cs with
        | d :: ds =>
          if isTail d then
            match ds with
            | e :: es =>
              if isTail e then
                (some (Char.ofNat (n % 0x8 * 0x40000 + tailBits c * 0x1000 + tailBits d * 0x40
                  + tailBits e)), es)
              else (none, e :: es)
            | [] => (none, [])
          else (none, d :: ds)
        | [] => (none, [])
      else (none, c :: cs)
    | [] => (none, [])
  else (none, bs)

/-- A step gives no bytes back. -/
theorem step_length_le (b : UInt8) (bs : List UInt8) : (step b bs).2.length ≤ bs.length := by
  unfold step
  dsimp only
  repeat' split
  all_goals simp only [List.length_cons, List.length_nil]
  all_goals omega

/-- The characters of a byte sequence, `none` for each ill-formed piece. -/
def scan : List UInt8 → List (Option Char)
  | [] => []
  | b :: bs => (step b bs).1 :: scan (step b bs).2
termination_by bs => bs.length
decreasing_by
  have := step_length_le b bs
  simp only [List.length_cons]
  omega

/-- The text of a byte sequence in which nothing is ill-formed. -/
def decode? (bs : List UInt8) : Option (List Char) := (scan bs).mapM id

/-- The text of a byte sequence, with U+FFFD for each ill-formed piece. -/
def decodeLossy (bs : List UInt8) : List Char := (scan bs).map (·.getD '\uFFFD')

end BoxOffice.Utf8
