import Recode.Engine.Basic

/-!
# Choosing an implementation

A codec lists the implementations worth trying, best first. They are looked up
one after the other and the first that opens is taken; behind them all comes
whatever the engine uses for the codec. Several look-ups may lead to the same
implementation, which is tried only once.

If nothing opens, the last failure is the one reported: it is that of the most
general implementation.

## Main definitions

* `Selection`: The outcome of choosing.
* `select`: Chooses an implementation.
-/

namespace Recode

/-- The outcome of choosing an implementation. -/
inductive Selection (γ : Type) where
  | opened (context : γ) (implementation : String)
  /-- No look-up found anything. -/
  | unavailable
  /-- Everything found failed to open, this implementation last. -/
  | initFailed (implementation : String) (cause : Cause)

/-- The implementations that failed to open so far, the last one in front. -/
abbrev Failures := List (String × Cause)

/-- The outcome when nothing is left to try. -/
def Failures.outcome {γ : Type} : Failures → Selection γ
  | [] => .unavailable
  | (implementation, cause) :: _ => .initFailed implementation cause

variable {σ ι γ : Type}

/-- Goes through the look-ups that are left. -/
def selectFrom (codec : Codec) (find : Lookup → Act σ (Option ι)) (name : ι → String)
    (attempt : ι → Act σ (Except Cause γ)) (failures : Failures) :
    List Lookup → Act σ (Selection γ)
  | [] => return failures.outcome
  | lookup :: lookups => do
    match ← find lookup with
    | none => selectFrom codec find name attempt failures lookups
    | some found =>
      if (failures.map Prod.fst).contains (name found) then
        selectFrom codec find name attempt failures lookups
      else
        match ← attempt found with
        | .ok context =>
          .note (.opened codec (name found))
          return .opened context (name found)
        | .error cause =>
          .note (.openFailed codec (name found) cause)
          selectFrom codec find name attempt ((name found, cause) :: failures) lookups

/-- The look-ups for a codec: the preferred names, then the codec itself. -/
def lookups (codec : Codec) (preferred : List String) : List Lookup :=
  preferred.map .name ++ [.codec codec]

/-- Chooses an implementation: `find` looks one up, `name` is what it is reported
    as and `attempt` tries to open it. -/
def select (codec : Codec) (preferred : List String) (find : Lookup → Act σ (Option ι))
    (name : ι → String) (attempt : ι → Act σ (Except Cause γ)) : Act σ (Selection γ) :=
  selectFrom codec find name attempt [] (lookups codec preferred)

end Recode
