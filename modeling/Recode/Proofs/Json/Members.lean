import Recode.Json.Record
import Recode.Proofs.Json.Skipping

/-!
# Reading records

How a record gathers from an object. The members come in any order, some belong to no
field, and the draft grows by one field at a time. `Fills` follows the draft along the
members without a word about tokens: a member of no field leaves it alone, a member of
a field that it does not have yet puts a value there. From that and the text of the
object follows what the reader of the record answers.

Reading an object goes from member to member, and the first differs from the others
only in that no comma stands in front of it. The induction along the members carries
both forms.

## Main definitions

* `Fills`: Members that take one draft to another.

## Theorems

* `Fills.skip`, `Fills.put`: The two kinds of members.
* `Separated.readMembers`: Members are read up to the closing brace.
* `RecordShape.parse_of_isObject`: A text that is an object is read as the record of
  the draft that its members fill.
* `readElements_nil`, `readElements_cons`: Reading a record from a list.
* `writeObject_isObject`: What is written for an object is one.
-/

namespace Recode

namespace Json

variable {δ α : Type} {fields : List (RecordField δ)}

/-- The members, read one after the other, take one draft to the other. -/
inductive Fills (fields : List (RecordField δ)) : List (String × List Char) → δ → δ → Prop
  | nil {d : δ} : Fills fields [] d d
  | cons {name : String} {value : List Char} {more : List (String × List Char)} {d next last : δ}
      {reader : Reader δ} (hreader : memberReader fields d name = .ok reader)
      (hvalue : reader.Takes value next) (hmore : Fills fields more next last) :
      Fills fields ((name, value) :: more) d last

/-! ## One member -/

/-- A member that no field has the name of leaves the draft alone. -/
theorem Fills.skip {name : String} {value : List Char} {more : List (String × List Char)}
    {d last : δ} (hname : name ∉ fields.map RecordField.name) (hvalue : IsValue value)
    (hmore : Fills fields more d last) : Fills fields ((name, value) :: more) d last := by
  have hnone : fields.find? (fun f => f.name == name) = none := by
    rw [List.find?_eq_none]
    intro f hf hsame
    rw [beq_iff_eq] at hsame
    exact hname (hsame ▸ List.mem_map_of_mem hf)
  -- So the value is skipped, whatever it is, and the draft is kept.
  have hreader : memberReader fields d name = .ok (Json.skip.map fun _ => d) := by
    rw [memberReader, hnone]
  exact .cons hreader ((skip_takes hvalue).map _) hmore

/-- A member of a field that the draft does not have yet puts its value there. -/
theorem Fills.put {β : Type} {name : String} {get : δ → Option β} {put : δ → β → δ}
    {r : Reader β} {value : List Char} {b : β} {more : List (String × List Char)} {d last : δ}
    (hfield : fields.find? (fun f => f.name == name) = some (.ofReader name get put r))
    (habsent : get d = none) (hvalue : r.Takes value b) (hmore : Fills fields more (put d b) last) :
    Fills fields ((name, value) :: more) d last := by
  have hpresent : (RecordField.ofReader name get put r).isPresent d = false := by
    simp only [RecordField.ofReader, habsent, Option.isSome_none]
  have hreader : memberReader fields d name = .ok (r.map (put d)) := by
    rw [memberReader, hfield]
    simp only [hpresent, Bool.false_eq_true, if_false]
    rfl
  exact .cons hreader (hvalue.map (put d)) hmore

theorem readMembers_close (first : Bool) (d : δ) (rest : List Token) :
    Yields (readMembers fields first d) (.closeBrace :: rest) d rest := by
  refine ⟨Nat.lt_succ_self _, ?_⟩
  rw [readMembers]
  rfl

/-- A key, a colon and a value are one member. The others are read with the draft that it
    leaves. -/
theorem readMembers_of_key {first : Bool} {d next last : δ} {reader : Reader δ} {name : String}
    {tokens values rest behind : List Token}
    (hkey : Yields (readKey first) tokens name (.colon :: (values ++ rest)))
    (hreader : memberReader fields d name = .ok reader)
    (hvalue : Yields reader (values ++ rest) next rest)
    (hmore : Yields (readMembers fields false next) rest last behind) :
    Yields (readMembers fields first d) tokens last behind := by
  obtain ⟨hshort, hkey⟩ := hkey
  obtain ⟨hshort', hvalue⟩ := hvalue
  obtain ⟨hshort'', hmore⟩ := hmore
  -- A closing brace is no key, so the object does not end here.
  have hopen : ∀ rest, tokens ≠ .closeBrace :: rest := by
    rintro rest rfl
    cases first <;> exact absurd hkey (by simp only [readKey, reduceCtorEq, not_false_eq_true])
  refine ⟨by simp only [List.length_cons] at hshort; omega, ?_⟩
  rw [readMembers]
  · simp only [hkey, hreader, readColon, Taken.one, hvalue, hmore, bind, Except.bind]
    rfl
  · exact hopen

/-! ## All members -/

/-- The key of the first member stands alone, every other behind a comma. -/
theorem readKey_yields {body : StringBody} {name : String} (h : body.value = .ok name)
    (rest : List Token) :
    Yields (readKey true) (.text body :: rest) name rest
      ∧ Yields (readKey false) (.comma :: .text body :: rest) name rest := by
  constructor
  · refine ⟨Nat.lt_succ_self _, ?_⟩
    simp only [readKey, h, bind, Except.bind]
    rfl
  · refine ⟨Nat.lt_succ_of_lt (Nat.lt_succ_self _), ?_⟩
    simp only [readKey, h, bind, Except.bind]
    rfl

/-- Members separated by commas, up to the closing brace, either from the first member
    on or from the comma in front. -/
theorem Separated.readMembers {members : List (String × List Char)} {text : List Char} {d last : δ}
    (h : Separated (IsMember IsName) members text) (hfills : Fills fields members d last) :
    ∃ tokens, Scans text tokens
      ∧ ∀ rest, Yields (readMembers fields true d) (tokens ++ .closeBrace :: rest) last rest
        ∧ Yields (Json.readMembers fields false d) (.comma :: (tokens ++ .closeBrace :: rest)) last
          rest := by
  -- Along the members the draft changes, and the tokens behind each are those of the others.
  induction h generalizing d with
  | one hitem =>
      cases hfills with
      | cons hreader hvalue hmore =>
          cases hmore
          obtain ⟨values, hscan, hvalue⟩ := hvalue
          obtain ⟨body, hname, hscan'⟩ := hitem.scans (fun key hkey => hkey.scans) hscan
          refine ⟨_, hscan', fun rest => ?_⟩
          obtain ⟨hfirst, hlater⟩ :=
            readKey_yields hname (.colon :: (values ++ .closeBrace :: rest))
          have hclose : Yields (Json.readMembers fields false last) (.closeBrace :: rest) last
              rest := readMembers_close false last rest
          exact ⟨readMembers_of_key hfirst hreader (hvalue _) hclose,
            readMembers_of_key hlater hreader (hvalue _) hclose⟩
  | cons hitem _ ih =>
      cases hfills with
      | cons hreader hvalue hmore =>
          obtain ⟨tokens, hscan, hmembers⟩ := ih hmore
          obtain ⟨values, hscan', hvalue⟩ := hvalue
          obtain ⟨body, hname, hscan''⟩ := hitem.scans (fun key hkey => hkey.scans) hscan'
          refine ⟨_, hscan''.append_cons hscan (by decide) scan_comma, fun rest => ?_⟩
          obtain ⟨hfirst, hlater⟩ := readKey_yields hname
            (.colon :: (values ++ .comma :: (tokens ++ .closeBrace :: rest)))
          obtain ⟨-, hrest⟩ := hmembers rest
          rw [List.append_assoc]
          simp only [List.cons_append]
          exact ⟨readMembers_of_key hfirst hreader (hvalue _) hrest,
            readMembers_of_key hlater hreader (hvalue _) hrest⟩

/-- An object whose members fill the draft is read as the record of the draft. -/
theorem RecordShape.read_takes {shape : RecordShape δ α} {members : List (String × List Char)}
    {text : List Char} {d : δ} {a : α} (h : Enclosed '{' '}' (IsMember IsName) members text)
    (hfills : Fills shape.fields members shape.empty d) (hfinish : shape.finish d = .ok a) :
    shape.read.Takes text a := by
  -- What is left to show is that the members are read up to the closing brace.
  have hread : ∀ tokens rest, Yields (readMembers shape.fields true shape.empty) tokens d rest →
      Yields shape.read (.openBrace :: tokens) a rest := by
    rintro tokens rest ⟨hshorter, heq⟩
    refine ⟨Nat.lt_succ_of_lt hshorter, ?_⟩
    simp only [RecordShape.read, RecordShape.finishTaken, heq, hfinish, bind, Except.bind]
    rfl
  have hclosing : Delimits '}' := by decide
  -- Between the braces there are blanks alone, or members.
  cases h with
  | @empty inside hblanks =>
      have hscan : Scans inside [] := fun rest _ => scan_blanks hblanks rest
      cases hfills
      exact ⟨_, hscan.enclosed hclosing scan_openBrace scan_closeBrace,
        fun rest => hread _ rest (readMembers_close true _ rest)⟩
  | items hitems =>
      obtain ⟨tokens, hscan, hmembers⟩ := hitems.readMembers hfills
      refine ⟨_, hscan.enclosed hclosing scan_openBrace scan_closeBrace, fun rest => ?_⟩
      rw [List.cons_append, List.append_assoc, List.singleton_append]
      exact hread _ rest (hmembers rest).1

/-- A text that is such an object and nothing else is read as the record. -/
theorem RecordShape.parse_of_isObject {shape : RecordShape δ α}
    {members : List (String × List Char)} {text : List Char} {d : δ} {a : α}
    (h : IsObject members text) (hfills : Fills shape.fields members shape.empty d)
    (hfinish : shape.finish d = .ok a) : shape.read.parse (String.ofList text) = .ok a := by
  obtain ⟨object, hobject, hpadded⟩ := h
  exact ((RecordShape.read_takes hobject hfills hfinish).padded hpadded).parse

/-! ## The elements of a list -/

theorem readElements_nil (short : Nat → Option Failure) (count : Nat) (d : δ)
    (rest : List Token) :
    Yields (readElements short [] count d) (.closeBracket :: rest) d rest :=
  ⟨Nat.lt_succ_self _, rfl⟩

/-- One more element is read for the next of the fields. -/
theorem readElements_cons {short : Nat → Option Failure} {field : RecordField δ} {count : Nat}
    {d next last : δ} {tokens start rest behind : List Token}
    (hstart : ∃ h, elementStart (count == 0) tokens = .ok ⟨start, h⟩)
    (hopen : tokens.head? ≠ some .closeBracket) (hvalue : Yields (field.read d) start next rest)
    (hmore : Yields (readElements short fields (count + 1) next) rest last behind) :
    Yields (readElements short (field :: fields) count d) tokens last behind := by
  obtain ⟨hle, hstart⟩ := hstart
  obtain ⟨hshort, hvalue⟩ := hvalue
  obtain ⟨hshort', hmore⟩ := hmore
  refine ⟨by omega, ?_⟩
  rw [readElements]
  · simp only [hstart, hvalue, hmore, bind, Except.bind]
    rfl
  · rintro rest rfl
    exact hopen rfl

/-! ## Objects as they are written -/

theorem Blanks.nil : Blanks [] := fun _ h => absurd h List.not_mem_nil

/-- Nothing need stand around an item. -/
theorem Padded.refl (item : List Char) : Padded item item :=
  ⟨[], [], Blanks.nil, Blanks.nil, (List.append_nil item).symm⟩

/-- Items that are written one by one and joined by commas are separated by them. -/
theorem commaSeparated_separated {ι : Type} {IsItem : ι → List Char → Prop}
    {write : ι → List Char} (hwrite : ∀ i, IsItem i (write i)) (i : ι) (is : List ι) :
    Separated IsItem (i :: is) (commaSeparated ((i :: is).map write)) := by
  induction is generalizing i with
  | nil => exact .one (hwrite i)
  | cons j is ih => exact .cons (hwrite i) (ih j)

/-- What is written for an object is an object with these members. -/
theorem writeObject_isObject (members : List (String × List Char)) :
    IsObject members (writeObject members) := by
  have hmember : ∀ m : String × List Char, IsMember IsName m (writeString m.1 ++ ':' :: m.2) :=
    fun m => ⟨_, _, _, writeString_isName m.1, Padded.refl _, Padded.refl _, rfl⟩
  refine ⟨_, ?_, Padded.refl _⟩
  rcases members with _ | ⟨m, members⟩
  · exact .empty Blanks.nil
  · exact .items (commaSeparated_separated hmember m members)

end Json

end Recode
