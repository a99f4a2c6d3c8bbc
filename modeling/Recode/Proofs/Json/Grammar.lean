import Recode.Json.Token

/-!
# The grammar of JSON text

JSON text as RFC 8259 has it, written down without a reader, so that what the
readers accept can be said of all texts and not of those that one writer happens
to write. Blanks may stand around every value and every name, a string has many
spellings, a number has its sign, fraction and exponent, and lists and objects
nest to any depth.

Two of the relations also say what a text means. What is between the quotes of a
string spells a row of fragments, some of which are surrogates by number; a row of
fragments denotes characters only if every surrogate has its partner. A string
that nobody looks at need not denote anything. The name of a member has to, and an
object is taken apart here into names and the texts of its values.

## Main definitions

* `IsContents`, `IsString`: The spellings of a string.
* `Denotes`, `IsName`: The characters that a spelling stands for.
* `IsNumber`: The spellings of a number.
* `Separated`, `Enclosed`: Items with commas between them, in a pair of brackets.
* `IsValue`: The values.
* `IsObject`: The objects with given members.
-/

namespace Recode

namespace Json

/-- Characters that may stand between tokens. -/
def Blanks (cs : List Char) : Prop := ∀ c ∈ cs, c ∈ [' ', '\t', '\n', '\r']

/-- Blanks stand around an item. -/
def Padded (item text : List Char) : Prop :=
  ∃ before after, Blanks before ∧ Blanks after ∧ text = before ++ (item ++ after)

/-! ## Strings -/

/-- The letters behind a backslash and the characters they stand for. -/
def escapes : List (Char × Char) :=
  [('"', '"'), ('\\', '\\'), ('/', '/'), ('b', '\x08'), ('f', '\x0c'), ('n', '\n'), ('r', '\r'),
    ('t', '\t')]

/-- The hexadecimal digits and their values. -/
def hexDigits : List (Char × Nat) :=
  [('0', 0), ('1', 1), ('2', 2), ('3', 3), ('4', 4), ('5', 5), ('6', 6), ('7', 7), ('8', 8),
    ('9', 9), ('a', 10), ('b', 11), ('c', 12), ('d', 13), ('e', 14), ('f', 15), ('A', 10),
    ('B', 11), ('C', 12), ('D', 13), ('E', 14), ('F', 15)]

/-- The number written by four hexadecimal digits. -/
def fourDigits (a b c d : Nat) : Nat := ((a * 16 + b) * 16 + c) * 16 + d

/-- What may stand between the quotes of a string, and the fragments it spells. -/
inductive IsContents : List Fragment → List Char → Prop
  | nil : IsContents [] []
  | plain {c : Char} {fragments : List Fragment} {cs : List Char} (hquote : c ≠ '"')
      (hbackslash : c ≠ '\\') (hspace : ¬ c < ' ') (hrest : IsContents fragments cs) :
      IsContents (.char c :: fragments) (c :: cs)
  | letter {letter c : Char} {fragments : List Fragment} {cs : List Char}
      (hletter : (letter, c) ∈ escapes) (hrest : IsContents fragments cs) :
      IsContents (.char c :: fragments) ('\\' :: letter :: cs)
  | unit {a b c d : Char × Nat} {fragments : List Fragment} {cs : List Char}
      (ha : a ∈ hexDigits) (hb : b ∈ hexDigits) (hc : c ∈ hexDigits) (hd : d ∈ hexDigits)
      (hrest : IsContents fragments cs) :
      IsContents (.unit (fourDigits a.2 b.2 c.2 d.2) :: fragments)
        ('\\' :: 'u' :: a.1 :: b.1 :: c.1 :: d.1 :: cs)

/-- A string that spells the given fragments. -/
def IsString (fragments : List Fragment) (text : List Char) : Prop :=
  ∃ contents, IsContents fragments contents ∧ text = '"' :: (contents ++ ['"'])

/-- The characters that fragments stand for. A unit outside the surrogates is a
    character, and so are two surrogates, a leading and a trailing one. -/
inductive Denotes : List Fragment → List Char → Prop
  | nil : Denotes [] []
  | char {c : Char} {fragments : List Fragment} {cs : List Char} (hrest : Denotes fragments cs) :
      Denotes (.char c :: fragments) (c :: cs)
  | unit {u : Nat} {fragments : List Fragment} {cs : List Char}
      (hunit : u < 0xd800 ∨ 0xdfff < u) (hrest : Denotes fragments cs) :
      Denotes (.unit u :: fragments) (Char.ofNat u :: cs)
  | pair {u v : Nat} {fragments : List Fragment} {cs : List Char}
      (hleading : 0xd800 ≤ u ∧ u ≤ 0xdbff) (htrailing : 0xdc00 ≤ v ∧ v ≤ 0xdfff)
      (hrest : Denotes fragments cs) :
      Denotes (.unit u :: .unit v :: fragments)
        (Char.ofNat (0x10000 + (u - 0xd800) * 0x400 + (v - 0xdc00)) :: cs)

/-- A string that stands for the given characters. -/
def IsName (name : String) (text : List Char) : Prop :=
  ∃ fragments, IsString fragments text ∧ Denotes fragments name.toList

/-! ## Numbers and words -/

/-- A row of digits. -/
def IsDigits (digits : List Char) : Prop := digits ≠ [] ∧ ∀ d ∈ digits, d.isDigit = true

/-- The digits before the point: a zero, or a row that begins with another digit. -/
def IsWhole (digits : List Char) : Prop :=
  digits = ['0'] ∨ IsDigits digits ∧ digits.head? ≠ some '0'

/-- The point and the digits behind it, if any. -/
inductive IsFraction : Option (List Char) → List Char → Prop
  | none : IsFraction none []
  | some {digits : List Char} (hdigits : IsDigits digits) :
      IsFraction (some digits) ('.' :: digits)

/-- The exponent, if any. -/
inductive IsExponent : Option (Bool × List Char) → List Char → Prop
  | none : IsExponent none []
  | some {letter : Char} {sign : List Char} {negative : Bool} {digits : List Char}
      (hletter : letter = 'e' ∨ letter = 'E')
      (hsign : (sign, negative) ∈ [([], false), (['+'], false), (['-'], true)])
      (hdigits : IsDigits digits) :
      IsExponent (some (negative, digits)) (letter :: (sign ++ digits))

/-- A number with the given digits. -/
inductive IsNumber : Numeral → List Char → Prop
  | intro {n : Numeral} {fraction exponent : List Char} (hwhole : IsWhole n.whole)
      (hfraction : IsFraction n.fraction fraction) (hexponent : IsExponent n.exponent exponent) :
      IsNumber n ((if n.negative then ['-'] else []) ++ (n.whole ++ (fraction ++ exponent)))

/-- The letters of a word. -/
def Word.letters : Word → List Char
  | null => ['n', 'u', 'l', 'l']
  | true => ['t', 'r', 'u', 'e']
  | false => ['f', 'a', 'l', 's', 'e']

/-! ## Lists and objects -/

variable {α : Type}

/-- Items, each as `IsItem` allows, with commas between them. -/
inductive Separated (IsItem : α → List Char → Prop) : List α → List Char → Prop
  | one {a : α} {item : List Char} (hitem : IsItem a item) : Separated IsItem [a] item
  | cons {a : α} {item : List Char} {as : List α} {more : List Char} (hitem : IsItem a item)
      (hmore : Separated IsItem as more) : Separated IsItem (a :: as) (item ++ ',' :: more)

/-- Any number of items between an opening and a closing character. -/
inductive Enclosed (opening closing : Char) (IsItem : α → List Char → Prop) :
    List α → List Char → Prop
  | empty {inside : List Char} (hblanks : Blanks inside) :
      Enclosed opening closing IsItem [] (opening :: (inside ++ [closing]))
  | items {as : List α} {inside : List Char} (hitems : Separated IsItem as inside) :
      Enclosed opening closing IsItem as (opening :: (inside ++ [closing]))

/-- A member of an object: a name, a colon and a value, with blanks around both. -/
def IsMember (IsKey : α → List Char → Prop) (member : α × List Char) (text : List Char) : Prop :=
  ∃ key paddedKey paddedValue, IsKey member.1 key ∧ Padded key paddedKey
    ∧ Padded member.2 paddedValue ∧ text = paddedKey ++ ':' :: paddedValue

/-- The values of JSON. -/
inductive IsValue : List Char → Prop
  | word (w : Word) : IsValue w.letters
  | number {n : Numeral} {text : List Char} (hnumber : IsNumber n text) : IsValue text
  | string {fragments : List Fragment} {text : List Char} (hstring : IsString fragments text) :
      IsValue text
  | list {values : List (List Char)} {text : List Char} (hvalues : ∀ v ∈ values, IsValue v)
      (htext : Enclosed '[' ']' Padded values text) : IsValue text
  | object {members : List (List Fragment × List Char)} {text : List Char}
      (hvalues : ∀ m ∈ members, IsValue m.2)
      (htext : Enclosed '{' '}' (IsMember IsString) members text) : IsValue text

/-- A whole text that is an object with the given members: their names, and the texts
    of their values. -/
def IsObject (members : List (String × List Char)) (text : List Char) : Prop :=
  ∃ object, Enclosed '{' '}' (IsMember IsName) members object ∧ Padded object text

end Json

end Recode
