import Recode.Json.Token

/-!
# Cutting JSON text into tokens

The scanner goes through the characters once, from left to right. Only the space,
the tab and the two line ends separate tokens; every other character belongs to
one.

Each kind of token has a function that takes it off the front. These functions
never hand back more characters than they were given, which is what
`scan` needs in order to end.

## Main definitions

* `isBlank`: The characters that separate tokens.
* `StringBody.take`: Takes the rest of a string off the front.
* `takeNumber`: Takes a number off the front.
* `takeToken`: Takes any token off the front.
* `scan`: The tokens of a text.

## Theorems

* `takeToken_length_le`: Taking a token leaves no more than there was.
-/

namespace Recode

namespace Json

/-- The characters that separate tokens. -/
def isBlank (c : Char) : Bool := c == ' ' || c == '\n' || c == '\t' || c == '\r'

/-- The value of a hexadecimal digit. -/
def hexDigit? (c : Char) : Option Nat :=
  if c.isDigit then some (c.toNat - '0'.toNat)
  else if 'a' ≤ c ∧ c ≤ 'f' then some (c.toNat - 'a'.toNat + 10)
  else if 'A' ≤ c ∧ c ≤ 'F' then some (c.toNat - 'A'.toNat + 10)
  else none

/-- The number that four hexadecimal digits write. -/
def hexUnit? (a b c d : Char) : Option Nat := do
  return (((← hexDigit? a) * 16 + (← hexDigit? b)) * 16 + (← hexDigit? c)) * 16 + (← hexDigit? d)

/-- The character behind a backslash stands for this one. -/
def escaped? : Char → Option Char
  | '"' => some '"'
  | '\\' => some '\\'
  | '/' => some '/'
  | 'b' => some '\x08'
  | 'f' => some '\x0c'
  | 'n' => some '\n'
  | 'r' => some '\r'
  | 't' => some '\t'
  | _ => none

/-- Puts a fragment in front of a string. -/
def StringBody.push (f : Fragment) (t : StringBody × List Char) : StringBody × List Char :=
  (⟨f :: t.1.fragments, t.1.ending⟩, t.2)

/-- How a string ends at a numbered unit with fewer than four characters left.
    The four digits are four bytes; it is a matter of bytes, too, whether that
    many are left. -/
def shortUnitEnd (rest : List Char) : StringEnd :=
  if rest.foldl (fun size c => size + c.utf8Size) 0 < 4 then .cutShort else .badUnit

/-- Takes the rest of a string off the front, the opening quote being gone. -/
def StringBody.take : List Char → StringBody × List Char
  | [] => (⟨[], .cutShort⟩, [])
  | '"' :: rest => (⟨[], .closed⟩, rest)
  | '\\' :: 'u' :: a :: b :: c :: d :: rest =>
    match hexUnit? a b c d with
    | some u => StringBody.push (.unit u) (StringBody.take rest)
    | none => (⟨[], .badUnit⟩, [])
  | '\\' :: 'u' :: rest => (⟨[], shortUnitEnd rest⟩, [])
  | ['\\'] => (⟨[], .cutShort⟩, [])
  | '\\' :: c :: rest =>
    match escaped? c with
    | some e => StringBody.push (.char e) (StringBody.take rest)
    | none => (⟨[], .badEscape⟩, [])
  | c :: rest =>
    if c < ' ' then (⟨[], .control⟩, []) else StringBody.push (.char c) (StringBody.take rest)

/-- Takes a word off the front, given the letters that are due. -/
def takeWord (w : Word) : List Char → List Char → Token × List Char
  | [], rest => (.word w, rest)
  | _ :: _, [] => (.brokenWord true, [])
  | due :: dues, c :: rest =>
    if c = due then takeWord w dues rest else (.brokenWord false, [])

/-- A number breaks off where a digit is due: at the end of the text, or at some
    other character. -/
structure DigitDue where
  atEnd : Bool
deriving DecidableEq, Repr

/-- Takes a row of digits off the front; it may not be empty. -/
def takeDigits (cs : List Char) : Except DigitDue (List Char × List Char) :=
  let digits := cs.takeWhile Char.isDigit
  if digits.isEmpty then .error ⟨cs.isEmpty⟩ else .ok (digits, cs.dropWhile Char.isDigit)

/-- Takes the digits before the point off the front: a zero, which no digit may
    follow, or a row that begins with another digit. -/
def takeWhole (cs : List Char) : Except DigitDue (List Char × List Char) :=
  match cs with
  | '0' :: rest =>
    if rest.head?.any Char.isDigit then .error ⟨false⟩ else .ok (['0'], rest)
  | _ => takeDigits cs

/-- Takes the point and the digits behind it off the front, if there is a
    point. -/
def takeFraction (cs : List Char) : Except DigitDue (Option (List Char) × List Char) :=
  match cs with
  | '.' :: rest => (takeDigits rest).map fun taken => (some taken.1, taken.2)
  | _ => .ok (none, cs)

/-- Splits the sign off an exponent; without one it is positive. -/
def exponentSign (cs : List Char) : Bool × List Char :=
  match cs with
  | '+' :: rest => (false, rest)
  | '-' :: rest => (true, rest)
  | _ => (false, cs)

/-- Takes an exponent with its letter and sign off the front, if there is one. -/
def takeExponent (cs : List Char) : Except DigitDue (Option (Bool × List Char) × List Char) :=
  match cs with
  | c :: rest =>
    if c = 'e' ∨ c = 'E' then
      (takeDigits (exponentSign rest).2).map fun taken =>
        (some ((exponentSign rest).1, taken.1), taken.2)
    else .ok (none, cs)
  | [] => .ok (none, [])

/-- Takes the digits of a number off the front, the minus sign being gone. -/
def takeNumeral (negative : Bool) (cs : List Char) : Except DigitDue (Numeral × List Char) := do
  let (whole, cs) ← takeWhole cs
  let (fraction, cs) ← takeFraction cs
  let (exponent, cs) ← takeExponent cs
  return (⟨negative, whole, fraction, exponent⟩, cs)

/-- Takes a number off the front, the minus sign being gone. -/
def takeNumber (negative : Bool) (cs : List Char) : Token × List Char :=
  match takeNumeral negative cs with
  | .ok (n, rest) => (.number n, rest)
  | .error due => (.brokenNumber due.atEnd, [])

/-- Takes the token that begins with `c`. -/
def takeToken (c : Char) (rest : List Char) : Token × List Char :=
  match c with
  | '{' => (.openBrace, rest)
  | '}' => (.closeBrace, rest)
  | '[' => (.openBracket, rest)
  | ']' => (.closeBracket, rest)
  | ',' => (.comma, rest)
  | ':' => (.colon, rest)
  | 'n' => takeWord .null ['u', 'l', 'l'] rest
  | 't' => takeWord .true ['r', 'u', 'e'] rest
  | 'f' => takeWord .false ['a', 'l', 's', 'e'] rest
  | '"' => let taken := StringBody.take rest; (.text taken.1, taken.2)
  | '-' => takeNumber true rest
  | _ => if c.isDigit then takeNumber false (c :: rest) else (.stray, [])

/-- Wrapping what was taken leaves the rest alone. -/
theorem rest_lt_of_map {β : Type} {r : Except DigitDue (List Char × List Char)}
    {f : List Char → β} {n : Nat} (h : ∀ taken, r = .ok taken → taken.2.length < n) :
    ∀ taken, (r.map fun t => (f t.1, t.2)) = .ok taken → taken.2.length < n := by
  intro taken htaken
  cases r with
  | error e => cases htaken
  | ok t => cases htaken; exact h t rfl

/-- A row of digits has at least one. -/
theorem takeDigits_length_lt (cs : List Char) :
    ∀ taken, takeDigits cs = .ok taken → taken.2.length < cs.length := by
  intro taken h
  simp only [takeDigits] at h
  split at h
  · cases h
  · next hne =>
    cases h
    have hsum := congrArg List.length
      (List.takeWhile_append_dropWhile (p := Char.isDigit) (l := cs))
    have hpos := List.length_pos_iff.mpr fun hnil => hne (List.isEmpty_iff.mpr hnil)
    rw [List.length_append] at hsum
    simp only
    omega

theorem takeWhole_length_lt (cs : List Char) :
    ∀ taken, takeWhole cs = .ok taken → taken.2.length < cs.length := by
  intro taken h
  unfold takeWhole at h
  split at h
  · split at h
    · cases h
    · cases h; exact Nat.lt_succ_self _
  · exact takeDigits_length_lt _ _ h

theorem takeFraction_length_le (cs : List Char) :
    ∀ taken, takeFraction cs = .ok taken → taken.2.length ≤ cs.length := by
  unfold takeFraction
  split
  · next rest =>
    intro taken h
    exact Nat.le_succ_of_le (Nat.le_of_lt (rest_lt_of_map (takeDigits_length_lt rest) taken h))
  · intro taken h; cases h; exact Nat.le_refl _

theorem exponentSign_length_le (cs : List Char) : (exponentSign cs).2.length ≤ cs.length := by
  unfold exponentSign
  split
  · exact Nat.le_succ _
  · exact Nat.le_succ _
  · exact Nat.le_refl _

theorem takeExponent_length_le (cs : List Char) :
    ∀ taken, takeExponent cs = .ok taken → taken.2.length ≤ cs.length := by
  unfold takeExponent
  split
  · next c rest =>
    split
    · intro taken h
      have hdigits := rest_lt_of_map (f := fun digits => some ((exponentSign rest).1, digits))
        (takeDigits_length_lt (exponentSign rest).2) taken h
      have hsign := exponentSign_length_le rest
      simp only [List.length_cons]
      omega
    · intro taken h; cases h; exact Nat.le_refl _
  · intro taken h; cases h; exact Nat.le_refl _

theorem takeNumeral_length_lt (negative : Bool) (cs : List Char) :
    ∀ taken, takeNumeral negative cs = .ok taken → taken.2.length < cs.length := by
  intro taken h
  unfold takeNumeral at h
  rcases hw : takeWhole cs with _ | ⟨whole, cs₁⟩
  · rw [hw] at h; cases h
  · rw [hw] at h
    -- The whole part makes the text shorter, and the parts behind it do not make it longer.
    have h₁ := takeWhole_length_lt cs _ hw
    rcases hf : takeFraction cs₁ with _ | ⟨fraction, cs₂⟩
    · simp only [bind, Except.bind, hf] at h; cases h
    · have h₂ := takeFraction_length_le cs₁ _ hf
      rcases he : takeExponent cs₂ with _ | ⟨exponent, cs₃⟩
      · simp only [bind, Except.bind, hf, he] at h; cases h
      · have h₃ := takeExponent_length_le cs₂ _ he
        simp only [bind, Except.bind, hf, he] at h
        cases h
        simp only at h₁ h₂ h₃ ⊢
        omega

theorem takeNumber_length_le (negative : Bool) (cs : List Char) :
    (takeNumber negative cs).2.length ≤ cs.length - 1 := by
  unfold takeNumber
  split
  · next h => exact Nat.le_sub_one_of_lt (takeNumeral_length_lt negative cs _ h)
  · exact Nat.zero_le _

theorem takeWord_length_le (w : Word) (dues : List Char) (cs : List Char) :
    (takeWord w dues cs).2.length ≤ cs.length := by
  induction dues generalizing cs with
  | nil => exact Nat.le_refl _
  | cons due dues ih =>
    cases cs with
    | nil => exact Nat.le_refl _
    | cons c rest =>
      unfold takeWord
      split
      · exact Nat.le_succ_of_le (ih rest)
      · exact Nat.zero_le _

theorem StringBody.take_length_le (cs : List Char) : (StringBody.take cs).2.length ≤ cs.length := by
  -- Only three of the ways to go on with a string go on at all: two escapes and a plain
  -- character.
  fun_induction StringBody.take cs with
  | case1 => exact Nat.le_refl _
  | case2 rest => exact Nat.le_succ _
  | case3 a b c d rest u _ ih =>
    simp only [StringBody.push, List.length_cons] at *
    omega
  | case4 => exact Nat.zero_le _
  | case5 => exact Nat.zero_le _
  | case6 => exact Nat.zero_le _
  | case7 c rest _ _ e _ ih =>
    simp only [StringBody.push, List.length_cons] at *
    omega
  | case8 => exact Nat.zero_le _
  | case9 => exact Nat.zero_le _
  | case10 c rest _ _ _ _ _ _ ih =>
    simp only [StringBody.push, List.length_cons] at *
    omega

theorem takeToken_length_le (c : Char) (rest : List Char) :
    (takeToken c rest).2.length ≤ rest.length := by
  unfold takeToken
  split
  case h_7 | h_8 | h_9 => exact takeWord_length_le _ _ _
  case h_10 => exact StringBody.take_length_le rest
  case h_11 => exact Nat.le_trans (takeNumber_length_le _ _) (Nat.sub_le _ _)
  case h_12 =>
    split
    · exact takeNumber_length_le _ (c :: rest)
    · exact Nat.zero_le _
  -- Punctuation is a single character.
  all_goals exact Nat.le_refl _

/-- The tokens of a text. -/
def scan (cs : List Char) : List Token :=
  match cs with
  | [] => []
  | c :: rest =>
    if isBlank c then scan rest
    else
      let taken := takeToken c rest
      taken.1 :: scan taken.2
termination_by cs.length
decreasing_by
  · simp only [List.length_cons, Nat.lt_add_one]
  · exact Nat.lt_succ_of_le (takeToken_length_le c rest)

end Json

end Recode
