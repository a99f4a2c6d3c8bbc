import Recode.Number.Layout
import Recode.Text.Quoted

/-!
# Why JSON text is refused

Reading stops at the first fault, from left to right. A fault is either one of
form, which any reader would find, or a mismatch between what the text holds and
what was to be read; the message of a mismatch names both.

## Main definitions

* `Real`: A number with a point, an exponent or too many digits.
* `Found`: What a text holds where something else was expected.
* `Failure`: Why a text is refused.
* `Failure.message`: The failure in words.
-/

namespace Recode

namespace Json

open Number

/-- A number that is not kept as an integer. -/
structure Real where
  negative : Bool
  size : Magnitude
deriving DecidableEq, Repr

/-- Reals are written with a point or an exponent, so that none looks like an
    integer: in place from five zeros behind the point up to sixteen digits in
    front of it, with an exponent beyond. -/
def Real.layout : DecimalLayout := ⟨fun leading => -5 ≤ leading && leading ≤ 15, true⟩

/-- The shortest decimal that reads back as the same number. -/
def Real.text (x : Real) : String :=
  Real.layout.write x.negative
    (if x.size.significand = 0 then ⟨0, 0⟩ else (double.rangeOf x.size).shortest .toEven)

/-- What a text holds where something else was expected. -/
inductive Found where
  | null
  | bool (b : Bool)
  | integer (n : Int)
  | real (x : Real)
  | string (s : String)
  | sequence
  | map
deriving DecidableEq, Repr

/-- What was found, in words. -/
def Found.message : Found → String
  | null => "null"
  | bool b => "boolean `" ++ toString b ++ "`"
  | integer n => "integer `" ++ toString n ++ "`"
  | real x => "floating point `" ++ x.text ++ "`"
  | string s => "string " ++ Text.quoted s
  | sequence => "sequence"
  | map => "map"

/-- Why a text is refused. -/
inductive Failure where
  /-- The text ends where a value is due. -/
  | endInValue
  | endInObject
  | endInList
  | endInString
  | expectedValue
  | expectedWord
  | expectedColon
  | expectedCommaOrBrace
  | expectedCommaOrBracket
  | trailingComma
  | trailingCharacters
  | keyNotString
  | invalidNumber
  | numberOutOfRange
  | invalidEscape
  /-- A leading surrogate that no escape follows. -/
  | unpairedEscape
  /-- A surrogate without its other half. -/
  | loneSurrogate
  | controlCharacter
  | unknownVariant (name : String) (known : List String)
  | invalidType (found : Found) (expected : String)
  | invalidValue (n : Int) (expected : String)
  | invalidLength (length : Nat) (expected : String)
  | missingField (name : String)
  | duplicateField (name : String)
deriving DecidableEq, Repr

namespace Failure

/-- Names to choose from, each in backquotes: two are joined by `or`, any other
    number is listed. -/
def oneOf (names : List String) : String :=
  match names.map fun n => "`" ++ n ++ "`" with
  | [a] => a
  | [a, b] => a ++ " or " ++ b
  | quoted => "one of " ++ ", ".intercalate quoted

/-- The failure in words. -/
def message : Failure → String
  | endInValue => "EOF while parsing a value"
  | endInObject => "EOF while parsing an object"
  | endInList => "EOF while parsing a list"
  | endInString => "EOF while parsing a string"
  | expectedValue => "expected value"
  | expectedWord => "expected ident"
  | expectedColon => "expected `:`"
  | expectedCommaOrBrace => "expected `,` or `\x7d`"
  | expectedCommaOrBracket => "expected `,` or `]`"
  | trailingComma => "trailing comma"
  | trailingCharacters => "trailing characters"
  | keyNotString => "key must be a string"
  | invalidNumber => "invalid number"
  | numberOutOfRange => "number out of range"
  | invalidEscape => "invalid escape"
  | unpairedEscape => "unexpected end of hex escape"
  | loneSurrogate => "lone leading surrogate in hex escape"
  | controlCharacter => "control character (\\u0000-\\u001F) found while parsing a string"
  | unknownVariant name known => "unknown variant `" ++ name ++ "`, expected " ++ oneOf known
  | invalidType found expected => "invalid type: " ++ found.message ++ ", expected " ++ expected
  | invalidValue n expected =>
    "invalid value: integer `" ++ toString n ++ "`, expected " ++ expected
  | invalidLength length expected =>
    "invalid length " ++ toString length ++ ", expected " ++ expected
  | missingField name => "missing field `" ++ name ++ "`"
  | duplicateField name => "duplicate field `" ++ name ++ "`"

end Failure

end Json

end Recode
