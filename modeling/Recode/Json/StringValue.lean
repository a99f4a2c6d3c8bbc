import Recode.Json.Failure
import Recode.Json.Token

/-!
# The value of a JSON string

A numbered unit outside the surrogate range stands for the character of that
number. Two surrogates, a leading and a trailing one, stand for one character
together and must follow each other directly. Where a leading surrogate is left
alone, what follows it decides the message: another unit makes it a lone
surrogate, anything else an escape that is missing.

Whoever skips a string asks only whether it is well formed, and surrogates do
not matter then.

## Main definitions

* `StringBody.value`: The characters of a string.
* `StringBody.check`: Whether a string is well formed.
-/

namespace Recode

namespace Json

/-- The unit is the first half of a pair. -/
def isLeadingSurrogate (u : Nat) : Bool := 0xd800 ≤ u && u ≤ 0xdbff

/-- The unit is the second half of a pair. -/
def isTrailingSurrogate (u : Nat) : Bool := 0xdc00 ≤ u && u ≤ 0xdfff

/-- The character that two surrogates stand for. -/
def pairedChar (leading trailing : Nat) : Char :=
  Char.ofNat (0x10000 + (leading - 0xd800) * 0x400 + (trailing - 0xdc00))

/-- What is wrong with a string that ends this way. -/
def StringEnd.failure? : StringEnd → Option Failure
  | closed => none
  | cutShort => some .endInString
  | control => some .controlCharacter
  | badEscape => some .invalidEscape
  | badUnit => some .invalidEscape

/-- What is wrong when a string ends directly behind a leading surrogate. -/
def StringEnd.failureAfterLeading : StringEnd → Failure
  | cutShort => .endInString
  | badUnit => .invalidEscape
  | closed | control | badEscape => .unpairedEscape

/-- The characters of a string. -/
def fragmentsValue (ending : StringEnd) : List Fragment → Except Failure (List Char)
  | [] =>
    match ending.failure? with
    | none => .ok []
    | some failure => .error failure
  | .char c :: rest => (fragmentsValue ending rest).map (c :: ·)
  | .unit u :: rest =>
    if isTrailingSurrogate u then .error .loneSurrogate
    else if isLeadingSurrogate u then
      match rest with
      | .unit v :: rest =>
        if isTrailingSurrogate v then (fragmentsValue ending rest).map (pairedChar u v :: ·)
        else .error .loneSurrogate
      | .char _ :: _ => .error .unpairedEscape
      | [] => .error ending.failureAfterLeading
    else (fragmentsValue ending rest).map (Char.ofNat u :: ·)

namespace StringBody

/-- The string that a token stands for. -/
def value (s : StringBody) : Except Failure String :=
  (fragmentsValue s.ending s.fragments).map String.ofList

/-- Whether a string is well formed, surrogates aside. -/
def check (s : StringBody) : Except Failure Unit :=
  match s.ending.failure? with
  | none => .ok ()
  | some failure => .error failure

end StringBody

end Json

end Recode
