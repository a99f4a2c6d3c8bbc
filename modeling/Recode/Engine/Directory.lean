import Recode.Engine.Selection

/-!
# Directories

The plainest thing that implementations can be chosen from: a list of what is
registered under which key, and another of what refuses to open. The world is the
list of inquiries made so far.

## Main definitions

* `Lookup.key`: What a look-up is registered under.
* `Directory`: Implementations and their failures.
* `Directory.choose`: Chooses an implementation.
-/

namespace Recode

/-- What a look-up is registered under. -/
def Lookup.key : Lookup → String
  | .name registered => registered
  | .codec c => "@" ++ c.name

/-- Implementations by their keys, and what the failing ones say. -/
structure Directory where
  found : List (String × String)
  failing : List (String × String)
deriving DecidableEq, Repr

/-- What a directory was asked. -/
inductive Inquiry where
  | find (key : String)
  | attempt (implementation : String)
deriving DecidableEq, Repr

/-- An inquiry in words. -/
def Inquiry.text : Inquiry → String
  | find key => "find " ++ key
  | attempt implementation => "open " ++ implementation

namespace Directory

/-- Adds an inquiry to those made so far. -/
def inquire (inquiry : Inquiry) : Act (List Inquiry) Unit := .modify (· ++ [inquiry])

/-- Looks up an implementation. -/
def find (d : Directory) (lookup : Lookup) : Act (List Inquiry) (Option String) := do
  inquire (.find lookup.key)
  return d.found.lookup lookup.key

/-- Opens an implementation; what it yields says which one it was. -/
def attempt (d : Directory) (implementation : String) :
    Act (List Inquiry) (Except Cause String) := do
  inquire (.attempt implementation)
  match d.failing.lookup implementation with
  | some text => return .error ⟨text, []⟩
  | none => return .ok ("context of " ++ implementation)

/-- Chooses an implementation. -/
def choose (d : Directory) (codec : Codec) (preferred : List String) :
    Act (List Inquiry) (Selection String) :=
  select codec preferred d.find id d.attempt

end Directory

end Recode
