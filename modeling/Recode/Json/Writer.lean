/-!
# Writing JSON

Records are written without spaces, their fields in the order of declaration.
In a string the quote, the backslash and the characters below the space are
escaped, by a letter where JSON has one and by number otherwise; everything else
stands for itself.

The writer works on lists of characters, so that what it writes can be compared
with what the scanner takes off the front.

## Main definitions

* `escapeChar`: One character inside a string.
* `writeString`, `writeInteger`, `writeNull`: Scalars.
* `writeList`, `writeObject`: Containers of written values.
-/

namespace Recode

namespace Json

/-- The letter behind the backslash, for the characters that have one. -/
def escapeLetter? : Char → Option Char
  | '"' => some '"'
  | '\\' => some '\\'
  | '\x08' => some 'b'
  | '\x0c' => some 'f'
  | '\n' => some 'n'
  | '\r' => some 'r'
  | '\t' => some 't'
  | _ => none

/-- The digit of a value below sixteen. -/
def hexDigit (n : Nat) : Char := Nat.digitChar n

/-- One character inside a string. Characters below the space have numbers below
    32, so two of the four digits of an escape are always zero. -/
def escapeChar (c : Char) : List Char :=
  match escapeLetter? c with
  | some letter => ['\\', letter]
  | none =>
    if c < ' ' then ['\\', 'u', '0', '0', hexDigit (c.toNat / 16), hexDigit (c.toNat % 16)]
    else [c]

/-- A string. -/
def writeString (s : String) : List Char := '"' :: s.toList.flatMap escapeChar ++ ['"']

/-- An integer, in decimal digits behind a minus sign if it is negative. -/
def writeInteger (n : Int) : List Char :=
  (if n < 0 then ['-'] else []) ++ Nat.toDigits 10 n.natAbs

/-- The value that is none. -/
def writeNull : List Char := ['n', 'u', 'l', 'l']

/-- Written values, separated by commas. -/
def commaSeparated : List (List Char) → List Char
  | [] => []
  | [v] => v
  | v :: vs => v ++ ',' :: commaSeparated vs

/-- A list of written values. -/
def writeList (values : List (List Char)) : List Char := '[' :: commaSeparated values ++ [']']

/-- An object with the given names and written values. -/
def writeObject (members : List (String × List Char)) : List Char :=
  '{' :: commaSeparated (members.map fun m => writeString m.1 ++ ':' :: m.2) ++ ['}']

end Json

end Recode
