import Recode.Transcoder.Operation

/-!
# Stacks of transcoders

One transcoder in front of a sink, or two in a row: what the front one puts out
goes into the back one. Operations go to the front unless they are meant for the
back.

## Main definitions

* `Stack`: One transcoder or two.
* `Stack.perform`: Performs an operation on one of them.
-/

namespace Recode.Bench

/-- One transcoder, or a front one and a back one. -/
structure Stack (b : Backend) where
  front : Option (Transcoder b)
  back : Transcoder b

namespace Stack

variable {b : Backend} {σ : Type}

/-- Transcoders with the given configurations, the back one first; the first that
    is not usable is reported. -/
def ofConfigs (front : Option Config) (back : Config) : Except Fault (Stack b) :=
  match Transcoder.ofConfig back with
  | .error fault => .error fault
  | .ok back =>
    match front with
    | none => .ok ⟨none, back⟩
    | some config => (Transcoder.ofConfig config).map fun front => ⟨some front, back⟩

/-- Performs an operation on the front transcoder, or on the back one if there is no
    other or it is meant. -/
def perform (e : Engine b σ) (sink : Sink σ) (onBack : Bool) (op : Operation) (s : Stack b) :
    Act σ (Except Fault Unit × Stack b) :=
  match s.front, onBack with
  | some front, false => fun w =>
    let inner := front.perform e.onSecond (Transcoder.asSink e sink) op (s.back, w)
    ⟨(inner.value.1, ⟨some inner.value.2, inner.world.1⟩), inner.notes, inner.world.2⟩
  | front, _ => do
    let (outcome, back) ← s.back.perform e sink op
    return (outcome, ⟨front, back⟩)

end Stack

end Recode.Bench
