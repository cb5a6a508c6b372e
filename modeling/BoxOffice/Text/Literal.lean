import BoxOffice.Text.Blank
import BoxOffice.Text.HiddenTable

/-!
# Texts as literals

`literal s` shows a text between quotation marks so that every character can be seen: a quotation
mark, a backslash, tab, line feed, carriage return and the null character have two-character
escapes, and each other hidden character stands as its number in hexadecimal between braces.
-/

namespace BoxOffice.Text

/-- The character is shown by its number. -/
def isHidden (c : Char) : Bool := inRanges hiddenRanges c.toNat

/-- The number of a character in lower-case hexadecimal, without leading zeros. -/
def hexDigits (c : Char) : List Char := Nat.toDigits 16 c.toNat

/-- One character inside a literal. -/
def literalChar (c : Char) : List Char :=
  match c with
  | '"' => ['\\', '"']
  | '\\' => ['\\', '\\']
  | '\t' => ['\\', 't']
  | '\n' => ['\\', 'n']
  | '\r' => ['\\', 'r']
  | '\x00' => ['\\', '0']
  | c => if isHidden c then ['\\', 'u', '{'] ++ hexDigits c ++ ['}'] else [c]

/-- A text as a literal, quotation marks included. -/
def literal (s : String) : String :=
  String.ofList ('"' :: s.toList.flatMap literalChar ++ ['"'])

end BoxOffice.Text
