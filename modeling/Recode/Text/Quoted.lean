import Recode.Text.Unprintable

/-!
# Quoted text in messages

A message that shows a text puts it in quotes and escapes what could not be read
otherwise: the quote and the backslash, line ends and the tab, and every
character without a printed form of its own, by its number in braces.

## Main definitions

* `Text.escape`: How one character is shown.
* `Text.quoted`: How a text is shown.
-/

namespace Recode

namespace Text

/-- How one character is shown. -/
def escape (c : Char) : List Char :=
  match c with
  | '"' => ['\\', '"']
  | '\\' => ['\\', '\\']
  | '\n' => ['\\', 'n']
  | '\r' => ['\\', 'r']
  | '\t' => ['\\', 't']
  | '\x00' => ['\\', '0']
  | _ =>
    if isUnprintable c then
      ['\\', 'u', '{'] ++ Nat.toDigits 16 c.toNat ++ ['}']
    else [c]

/-- How a text is shown. -/
def quoted (s : String) : String :=
  String.ofList ('"' :: s.toList.flatMap escape ++ ['"'])

end Text

end Recode
