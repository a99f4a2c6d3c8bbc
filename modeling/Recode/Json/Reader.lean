import Recode.Json.Numeral
import Recode.Json.Scan
import Recode.Json.StringValue

/-!
# Readers

A reader takes a value of one type off the front of a list of tokens. Its result
carries the proof that at least one token is gone, so whoever repeats a reader
needs no other reason to come to an end.

A reader that meets something of another type names what it found. Finding out
takes reading it: a broken string or a number too large is reported as such, and
not as a value of the wrong type.

## Main definitions

* `Taken`: A value and the tokens left over.
* `Reader`: Takes a value off the front.
* `Token.mismatch`: The failure of meeting a token in the wrong place.
* `readInteger`, `readText`, `readOptional`, `readVariant`: Readers of scalars.
* `Reader.parse`: Reads a whole text.
-/

namespace Recode

namespace Json

/-- A value taken off the front of `tokens`, and the tokens left over. -/
structure Taken (α : Type) (tokens : List Token) where
  value : α
  rest : List Token
  shorter : rest.length < tokens.length

/-- Takes a value off the front. -/
abbrev Reader (α : Type) := (tokens : List Token) → Except Failure (Taken α tokens)

namespace Taken

variable {α β : Type} {tokens : List Token}

/-- Changes the value. -/
def map (f : α → β) (t : Taken α tokens) : Taken β tokens := ⟨f t.value, t.rest, t.shorter⟩

/-- A value that is a single token. -/
def one (value : α) (token : Token) (rest : List Token) : Taken α (token :: rest) :=
  ⟨value, rest, Nat.lt_succ_self _⟩

/-- A value taken off a tail, as taken off the whole. -/
def ofTail {rest : List Token} (t : Taken α rest) (h : rest.length ≤ tokens.length) :
    Taken α tokens :=
  ⟨t.value, t.rest, Nat.lt_of_lt_of_le t.shorter h⟩

end Taken

/-- Changes the value a reader yields. -/
def Reader.map {α β : Type} (f : α → β) (r : Reader α) : Reader β :=
  fun tokens => (r tokens).map (Taken.map f)

/-- What a word is, where something else was expected. -/
def Word.found : Word → Found
  | null => .null
  | true => .bool .true
  | false => .bool .false

/-- The failure of meeting a token where a value of another type was expected. -/
def Token.mismatch (expected : String) : Token → Failure
  | openBrace => .invalidType .map expected
  | openBracket => .invalidType .sequence expected
  | word w => .invalidType w.found expected
  | brokenWord atEnd => if atEnd then .endInValue else .expectedWord
  | number n =>
    match n.value with
    | .ok v => .invalidType v.found expected
    | .error failure => failure
  | brokenNumber atEnd => if atEnd then .endInValue else .invalidNumber
  | text s =>
    match s.value with
    | .ok s => .invalidType (.string s) expected
    | .error failure => failure
  | closeBrace | closeBracket | comma | colon | stray => .expectedValue

/-- Reads an integer from `low` up to `high`. -/
def readInteger (low high : Int) (expected : String) : Reader Int
  | [] => .error .endInValue
  | .number n :: rest => do
    match ← n.value with
    | .integer i =>
      if low ≤ i ∧ i ≤ high then return .one i _ rest else throw (.invalidValue i expected)
    | .real x => throw (.invalidType (.real x) expected)
  | token :: _ => .error (token.mismatch expected)

/-- Reads a word of 32 bits without sign. -/
def readUInt32 : Reader UInt32 :=
  (readInteger 0 (UInt32.size - 1) "u32").map fun i => UInt32.ofNat i.toNat

/-- Reads a word of 64 bits without sign. -/
def readUInt64 : Reader UInt64 :=
  (readInteger 0 (UInt64.size - 1) "usize").map fun i => UInt64.ofNat i.toNat

/-- Reads a word of 32 bits with sign. -/
def readInt32 : Reader Int32 :=
  (readInteger Int32.minValue.toInt Int32.maxValue.toInt "i32").map Int32.ofInt

/-- Reads a string; `expected` names it to whoever wrote something else. -/
def readText (expected : String) : Reader String
  | [] => .error .endInValue
  | .text s :: rest => do return .one (← s.value) _ rest
  | token :: _ => .error (token.mismatch expected)

/-- Reads what may be `null` instead. -/
def readOptional {α : Type} (r : Reader α) : Reader (Option α)
  | .word .null :: rest => .ok (.one none _ rest)
  | tokens => r.map some tokens

/-- Reads the `null` that stands for a variant without contents. -/
def readUnit : Reader Unit
  | [] => .error .endInValue
  | .word .null :: rest => .ok (.one () _ rest)
  | token :: _ => .error (token.mismatch "unit")

/-- Reads the colon behind a key. -/
def readColon : Reader Unit
  | [] => .error .endInObject
  | .colon :: rest => .ok (.one () _ rest)
  | _ :: _ => .error .expectedColon

/-- Reads the brace behind the only member of an object. -/
def readOnlyMemberEnd : Reader Unit
  | [] => .error .endInObject
  | .closeBrace :: rest => .ok (.one () _ rest)
  | _ :: _ => .error .expectedValue

/-- The variant a string names; `variants` lists the names in the order in which an
    unknown one is answered. -/
def variantNamed {α : Type} (variants : List (String × α)) (s : StringBody) :
    Except Failure α := do
  let name ← s.value
  match variants.lookup name with
  | some a => return a
  | none => throw (.unknownVariant name (variants.map Prod.fst))

/-- Reads the key that names a variant, behind an opening brace. An object without
    members names none. -/
def readVariantKey {α : Type} (variants : List (String × α)) : Reader α
  | [] => .error .endInObject
  | .closeBrace :: _ => .error .expectedValue
  | .text s :: rest => do return .one (← variantNamed variants s) _ rest
  | _ :: _ => .error .keyNotString

/-- Reads a variant: its name, or an object whose only member has that name and
    the value `null`. -/
def readVariant {α : Type} (variants : List (String × α)) : Reader α
  | [] => .error .endInValue
  | .openBrace :: tokens => do
    let name ← readVariantKey variants tokens
    let colon ← readColon name.rest
    let unit ← readUnit colon.rest
    let brace ← readOnlyMemberEnd unit.rest
    return ⟨name.value, brace.rest, by
      have := name.shorter; have := colon.shorter; have := unit.shorter; have := brace.shorter
      simp only [List.length_cons]; omega⟩
  | .text s :: rest => do return .one (← variantNamed variants s) _ rest
  | _ :: _ => .error .expectedValue

/-- Reads a whole text: behind the value nothing may follow. -/
def Reader.parse {α : Type} (r : Reader α) (text : String) : Except Failure α := do
  let taken ← r (scan text.toList)
  if taken.rest.isEmpty then return taken.value else throw .trailingCharacters

end Json

end Recode
