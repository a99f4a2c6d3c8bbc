import Recode.Json.Skip

/-!
# Reading records

A record with named fields is read from an object, its members in any order, or
from a list that gives the fields in the order of their declaration. Either way
the fields gather in a draft; whether the draft is complete is settled when all
of it has been read, so a missing field is reported last.

In an object a field given twice is refused at its second name, and members of
other names are skipped. In a list the elements beyond the last field are
refused; the reader of the record decides whether it may be shorter.

## Main definitions

* `RecordField`: A named field of a draft.
* `readMembers`: Reads an object into a draft.
* `readElements`: Reads a list into a draft.
* `RecordShape`: What there is to know about a record type.
* `RecordShape.read`: Reads a record.
-/

namespace Recode

namespace Json

variable {δ α : Type}

/-- A named field of a draft. -/
structure RecordField (δ : Type) where
  name : String
  /-- The draft has the field already. -/
  isPresent : δ → Bool
  /-- Reads the field's value into the draft. -/
  read : δ → Reader δ

/-- A field whose values have the given reader and are put into the draft by
    `put`. -/
def RecordField.ofReader {β : Type} (name : String) (get : δ → Option β) (put : δ → β → δ)
    (r : Reader β) : RecordField δ :=
  { name
    isPresent := fun draft => (get draft).isSome
    read := fun draft => r.map (put draft) }

/-- Reads the name of a member, behind its comma if it is not the first. -/
def readKey (first : Bool) (tokens : List Token) : Except Failure (Taken String tokens) :=
  match first, tokens with
  | _, [] => .error .endInObject
  | true, .text s :: rest => do return .one (← s.value) _ rest
  | true, _ :: _ => .error .keyNotString
  | false, .comma :: .text s :: rest => do
    return (Taken.one (← s.value) (.text s) rest).ofTail (Token.length_rest_le _ _)
  | false, .comma :: .closeBrace :: _ => .error .trailingComma
  | false, .comma :: _ :: _ => .error .keyNotString
  | false, [.comma] => .error .endInValue
  | false, _ :: _ => .error .expectedCommaOrBrace

/-- The reader for the value of a member: its field's, or one that leaves the draft
    alone. -/
def memberReader (fields : List (RecordField δ)) (draft : δ) (name : String) :
    Except Failure (Reader δ) :=
  match fields.find? fun f => f.name == name with
  | none => .ok (skip.map fun _ => draft)
  | some field =>
    if field.isPresent draft then .error (.duplicateField name) else .ok (field.read draft)

/-- Reads the members of an object into a draft, the opening brace being gone. -/
def readMembers (fields : List (RecordField δ)) (first : Bool) (draft : δ) (tokens : List Token) :
    Except Failure (Taken δ tokens) :=
  match tokens with
  | .closeBrace :: rest => .ok (.one draft _ rest)
  | tokens => do
    let key ← readKey first tokens
    let reader ← memberReader fields draft key.value
    let colon ← readColon key.rest
    let member ← reader colon.rest
    let all ← readMembers fields false member.value member.rest
    return all.ofTail (by
      have := key.shorter; have := colon.shorter; have := member.shorter
      omega)
termination_by tokens.length
decreasing_by
  have := key.shorter; have := colon.shorter; have := member.shorter
  omega

/-- The tokens from the next element on, behind its comma if it is not the
    first. -/
def elementStart (first : Bool) (tokens : List Token) :
    Except Failure { rest : List Token // rest.length ≤ tokens.length } :=
  match first, tokens with
  | _, [] => .error .endInList
  | true, tokens => .ok ⟨tokens, Nat.le_refl _⟩
  | false, .comma :: .closeBracket :: _ => .error .trailingComma
  | false, [.comma] => .error .endInValue
  | false, .comma :: rest => .ok ⟨rest, Token.length_rest_le _ rest⟩
  | false, _ :: _ => .error .expectedCommaOrBracket

/-- Reads the bracket behind the last element. -/
def readListEnd : Reader Unit
  | [] => .error .endInList
  | .closeBracket :: rest => .ok (.one () _ rest)
  | .comma :: .closeBracket :: _ => .error .trailingComma
  | _ :: _ => .error .trailingCharacters

/-- Reads the elements of a list into the fields in their order, the opening
    bracket being gone. `short` says what becomes of a list that ends after
    `count` elements. -/
def readElements (short : Nat → Option Failure) (fields : List (RecordField δ)) (count : Nat)
    (draft : δ) (tokens : List Token) : Except Failure (Taken δ tokens) :=
  match fields, tokens with
  | [], tokens => readListEnd.map (fun _ => draft) tokens
  | _ :: _, .closeBracket :: rest =>
    match short count with
    | none => .ok (.one draft _ rest)
    | some failure => .error failure
  | field :: fields, tokens => do
    let start ← elementStart (count == 0) tokens
    let element ← field.read draft start.val
    let all ← readElements short fields (count + 1) element.value element.rest
    return all.ofTail (Nat.le_trans (Nat.le_of_lt element.shorter) start.property)

/-- What there is to know about a record type in order to read it. -/
structure RecordShape (δ α : Type) where
  /-- How the type is named to whoever wrote something else. -/
  expected : String
  /-- The fields in the order of their declaration. -/
  fields : List (RecordField δ)
  /-- The draft without any field. -/
  empty : δ
  /-- What is wrong with a list of so many elements, if anything. -/
  short : Nat → Option Failure
  /-- The record of a draft. -/
  finish : δ → Except Failure α

/-- Finishes a draft that has been taken. -/
def RecordShape.finishTaken (shape : RecordShape δ α) {tokens rest : List Token}
    (h : rest.length ≤ tokens.length) (taken : Except Failure (Taken δ rest)) :
    Except Failure (Taken α tokens) := do
  let taken ← taken
  let record ← shape.finish taken.value
  return (taken.map fun _ => record).ofTail h

/-- Reads a record. -/
def RecordShape.read (shape : RecordShape δ α) : Reader α
  | [] => .error .endInValue
  | .openBrace :: rest =>
    shape.finishTaken (Token.length_rest_le _ rest) (readMembers shape.fields true shape.empty rest)
  | .openBracket :: rest =>
    shape.finishTaken (Token.length_rest_le _ rest)
      (readElements shape.short shape.fields 0 shape.empty rest)
  | token :: _ => .error (token.mismatch shape.expected)

/-- A field that has to be there. -/
def required {β : Type} (name : String) : Option β → Except Failure β
  | some b => .ok b
  | none => .error (.missingField name)

end Json

end Recode
