import Recode.Note

/-!
# Actions

The pipeline works in a world it does not own: the engine and the sink live
there, and what they answer may depend on everything that happened before. An
action runs in a world and yields a value, the notes taken on the way and the
world it leaves behind.

The world is a parameter throughout. An engine whose answers depend on its
arguments alone has actions that leave every world as it is, and pipelines are
stacked by running the actions of one in a world that has the other in it.

## Main definitions

* `Outcome`: What an action leaves behind.
* `Act`: An action.
* `Act.note`: Takes a note.
* `Act.get`, `Act.modify`: Looks at the world, or changes it.
* `Act.onSecond`: Runs an action in the second part of a larger world.

## Theorems

* `Act.pure_apply`, `Act.bind_apply`: What doing nothing and doing two things in a
  row leave behind.
-/

namespace Recode

/-- What an action leaves behind. -/
structure Outcome (σ α : Type) where
  value : α
  notes : List Note
  world : σ

/-- An action in worlds of type `σ`. -/
def Act (σ α : Type) : Type := σ → Outcome σ α

namespace Act

variable {σ ρ α β : Type}

/-- Yields a value and does nothing. -/
protected def pure (a : α) : Act σ α := fun w => ⟨a, [], w⟩

/-- Does one thing after another. -/
protected def bind (x : Act σ α) (f : α → Act σ β) : Act σ β := fun w =>
  let first := x w
  let second := f first.value first.world
  ⟨second.value, first.notes ++ second.notes, second.world⟩

instance : Monad (Act σ) where
  pure := Act.pure
  bind := Act.bind

theorem pure_apply (a : α) (w : σ) : (pure a : Act σ α) w = ⟨a, [], w⟩ := rfl

theorem bind_apply (x : Act σ α) (f : α → Act σ β) (w : σ) :
    (x >>= f) w
      = ⟨(f (x w).value (x w).world).value,
          (x w).notes ++ (f (x w).value (x w).world).notes,
          (f (x w).value (x w).world).world⟩ := rfl

instance : LawfulMonad (Act σ) := LawfulMonad.mk' (Act σ)
  (fun x => by
    funext w
    exact congrArg (fun notes => Outcome.mk (x w).value notes (x w).world) (List.append_nil _))
  (fun _ _ => rfl)
  (fun x f g => by
    funext w
    simp only [bind_apply, List.append_assoc])

/-- Takes a note. -/
def note (n : Note) : Act σ Unit := fun w => ⟨(), [n], w⟩

/-- Looks at the world. -/
def get : Act σ σ := fun w => ⟨w, [], w⟩

/-- Changes the world. -/
def modify (f : σ → σ) : Act σ Unit := fun w => ⟨(), [], f w⟩

/-- Runs an action in the second part of a larger world. -/
def onSecond (x : Act σ α) : Act (ρ × σ) α := fun w =>
  let inner := x w.2
  ⟨inner.value, inner.notes, (w.1, inner.world)⟩

@[simp] theorem pure_value (a : α) (w : σ) : ((pure a : Act σ α) w).value = a := rfl

@[simp] theorem pure_world (a : α) (w : σ) : ((pure a : Act σ α) w).world = w := rfl

@[simp] theorem bind_value (x : Act σ α) (f : α → Act σ β) (w : σ) :
    ((x >>= f) w).value = (f (x w).value (x w).world).value := rfl

@[simp] theorem bind_world (x : Act σ α) (f : α → Act σ β) (w : σ) :
    ((x >>= f) w).world = (f (x w).value (x w).world).world := rfl

@[simp] theorem note_world (n : Note) (w : σ) : (note n w).world = w := rfl

@[simp] theorem get_value (w : σ) : ((get : Act σ σ) w).value = w := rfl

@[simp] theorem get_world (w : σ) : ((get : Act σ σ) w).world = w := rfl

@[simp] theorem modify_world (f : σ → σ) (w : σ) : (modify f w).world = f w := rfl

end Act

end Recode
