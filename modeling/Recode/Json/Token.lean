/-!
# JSON tokens

JSON text is read in two passes. The first cuts the text into tokens and decides
nothing else; the second reads a value of a known type from the tokens.

What is wrong with a text depends on what was to be read: a surrogate that
stands alone is no fault in a member nobody asks for, and a number too large is
none where a number is merely skipped. A token therefore keeps what the text
says, fault included, and leaves the judgement to whoever reads it. Behind a
token that breaks off nothing is ever read, so a list of tokens ends there.

## Main definitions

* `Fragment`, `StringBody`: The contents of a string and how it ends.
* `Numeral`: The digits of a number.
* `Token`: A token.
-/

namespace Recode

namespace Json

/-- A piece of a string: a character, or a 16-bit unit given by its number. -/
inductive Fragment where
  | char (c : Char)
  | unit (u : Nat)
deriving DecidableEq, Repr

/-- How a string ends. -/
inductive StringEnd where
  /-- With a quote. -/
  | closed
  /-- With the end of the text. -/
  | cutShort
  /-- At a character below the space. -/
  | control
  /-- At a backslash that begins no escape. -/
  | badEscape
  /-- At a numbered unit whose digits are not hexadecimal. -/
  | badUnit
deriving DecidableEq, Repr

/-- The contents of a string and how it ends. -/
structure StringBody where
  fragments : List Fragment
  ending : StringEnd
deriving DecidableEq, Repr

/-- The digits of a number. -/
structure Numeral where
  negative : Bool
  /-- The digits before the point. -/
  whole : List Char
  /-- The digits behind the point, if there is one. -/
  fraction : Option (List Char)
  /-- Whether the exponent is negative, and its digits, if there is one. -/
  exponent : Option (Bool × List Char)
deriving DecidableEq, Repr

/-- The three words of JSON. -/
inductive Word where
  | null
  | true
  | false
deriving DecidableEq, Repr

/-- A token. A token that breaks off says whether it was the end of the text that
    broke it off. -/
inductive Token where
  | openBrace
  | closeBrace
  | openBracket
  | closeBracket
  | comma
  | colon
  | word (w : Word)
  | brokenWord (atEnd : Bool)
  | number (n : Numeral)
  | brokenNumber (atEnd : Bool)
  | text (t : StringBody)
  /-- A character that begins nothing. -/
  | stray
deriving DecidableEq, Repr

theorem Token.length_rest_le (token : Token) (rest : List Token) :
    rest.length ≤ (token :: rest).length := Nat.le_succ _

end Json

end Recode
