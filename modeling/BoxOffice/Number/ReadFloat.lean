import BoxOffice.Number.Bounded

/-!
# Reading doubles

`readFloat? s` reads a decimal with optional sign, fraction and exponent, or one of the words `inf`,
`infinity` and `nan` in any case, as the nearest double.
-/

namespace BoxOffice.Number

/-- The number that ASCII digits write after a number `n`, and what follows them. -/
def takeDigits (n : Nat) : List Char → Nat × Nat × List Char
  | [] => (n, 0, [])
  | c :: cs =>
    match digit? c with
    | some d =>
      let (m, count, rest) := takeDigits (10 * n + d) cs
      (m, count + 1, rest)
    | none => (n, 0, c :: cs)

/-- The exponent that ends a text, nothing being none. -/
def readExponent? : List Char → Option Int
  | [] => some 0
  | e :: cs =>
    if e = 'e' ∨ e = 'E' then
      let (negative, ds) := match cs with
        | '-' :: ds => (true, ds)
        | '+' :: ds => (false, ds)
        | ds => (false, ds)
      match takeDigits 0 ds with
      | (_, 0, _) => none
      | (n, _, []) => some (if negative then -(n : Int) else n)
      | _ => none
    else none

/-- The nearest double of `m · 10 ^ e`. -/
def nearest (m : Nat) : Int → Float
  | .ofNat e => Float.ofScientific m false e
  | .negSucc e => Float.ofScientific m true (e + 1)

/-- The double of a text without sign. -/
def readMagnitude? (cs : List Char) : Option Float :=
  let word := String.ofList (cs.map Char.toLower)
  if word = "inf" ∨ word = "infinity" then some (1.0 / 0.0)
  else if word = "nan" then some (0.0 / 0.0)
  else
    let (whole, n, rest) := takeDigits 0 cs
    let (digits, k, rest) := match rest with
      | '.' :: rest => takeDigits whole rest
      | rest => (whole, 0, rest)
    if n + k = 0 then none
    else (readExponent? rest).map fun e => nearest digits (e - k)

/-- **The double that a text writes.** -/
def readFloat? (s : String) : Option Float :=
  match s.toList with
  | '-' :: cs => (readMagnitude? cs).map fun x => -x
  | '+' :: cs => readMagnitude? cs
  | cs => readMagnitude? cs

end BoxOffice.Number
