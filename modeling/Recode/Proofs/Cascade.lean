/-!
# Passes and cascades

A stage of a pipeline that keeps a state, takes one item at a time and yields one or
none. A whole list can be put through two such stages in two ways. A cascade hands
every item on as soon as the first stage has yielded it; two passes put the whole
list through the first stage before the second stage sees anything. The second stage
gets the same items in the same order either way, and because the stages share no
state, it cannot tell the difference. `pass_cascade` says so.

## Main definitions

* `pass`: Puts a list through a stage.
* `cascade`: Two stages as one.

## Theorems

* `pass_append`: A list in two parts.
* `pass_cascade`: A pass through a cascade is two passes in a row.
* `pass_conserves`: What a stage keeps back comes out later.
-/

namespace Recode

variable {α β γ ς τ : Type}

/-- Puts a list through a stage, one item after the other. -/
def pass (step : ς → α → Option β × ς) : ς → List α → List β × ς
  | s, [] => ([], s)
  | s, a :: as =>
    let (b?, s) := step s a
    let (bs, s) := pass step s as
    (b?.toList ++ bs, s)

/-- Two stages as one: what the first yields goes straight to the second. -/
def cascade (first : ς → α → Option β × ς) (second : τ → β → Option γ × τ) (s : ς × τ) (a : α) :
    Option γ × ς × τ :=
  match first s.1 a with
  | (none, s') => (none, s', s.2)
  | (some b, s') =>
    let (c?, t') := second s.2 b
    (c?, s', t')

theorem pass_cons (step : ς → α → Option β × ς) (s : ς) (a : α) (as : List α) :
    pass step s (a :: as)
      = ((step s a).1.toList ++ (pass step (step s a).2 as).1, (pass step (step s a).2 as).2) := rfl

/-- A list in two pieces is put through one after the other, from where the first has left the
    stage. -/
theorem pass_append (step : ς → α → Option β × ς) (s : ς) (as as' : List α) :
    pass step s (as ++ as')
      = ((pass step s as).1 ++ (pass step (pass step s as).2 as').1,
          (pass step (pass step s as).2 as').2) := by
  induction as generalizing s with
  | nil => rfl
  | cons a as ih =>
      rw [List.cons_append, pass_cons, ih, pass_cons, List.append_assoc]

theorem cascade_none {first : ς → α → Option β × ς} {second : τ → β → Option γ × τ} {s : ς × τ}
    {a : α} {s' : ς} (h : first s.1 a = (none, s')) :
    cascade first second s a = (none, s', s.2) := by
  rw [cascade, h]

theorem cascade_some {first : ς → α → Option β × ς} {second : τ → β → Option γ × τ} {s : ς × τ}
    {a : α} {b : β} {s' : ς} (h : first s.1 a = (some b, s')) :
    cascade first second s a = ((second s.2 b).1, s', (second s.2 b).2) := by
  rw [cascade, h]

/-- Two stages in step do what they do one after the other: all of the list goes through the
    first, and all it yields through the second. -/
theorem pass_cascade (first : ς → α → Option β × ς) (second : τ → β → Option γ × τ) (s : ς)
    (t : τ) (as : List α) :
    pass (cascade first second) (s, t) as
      = ((pass second t (pass first s as).1).1, (pass first s as).2,
          (pass second t (pass first s as).1).2) := by
  -- The induction is on the list; both states move along.
  induction as generalizing s t with
  | nil => rfl
  | cons a as ih =>
      rcases hfirst : first s a with ⟨_ | b, s'⟩
      · rw [pass_cons, cascade_none hfirst, ih, pass_cons, hfirst]
        rfl
      · rw [pass_cons, cascade_some hfirst, ih, pass_cons, hfirst]
        rfl

/-- What a stage keeps back comes out later. Let `queue` be what a state keeps back and
    `emerge` what a state would yield for such a queue. If one step keeps the sum of what
    has come out and what is still to come, whatever follows, then so does a pass. -/
theorem pass_conserves {step : ς → α → Option β × ς} (queue : ς → List γ)
    (emerge : ς → List γ → List β) {accept : α → List γ} (valid : ς → Prop) (fits : α → Prop)
    (hstep : ∀ s a, valid s → fits a → valid (step s a).2 ∧ ∀ rest,
      (step s a).1.toList ++ emerge (step s a).2 (queue (step s a).2 ++ rest)
        = emerge s (queue s ++ (accept a ++ rest)))
    (s : ς) (hs : valid s) (as : List α) (has : ∀ a ∈ as, fits a) :
    valid (pass step s as).2 ∧ ∀ rest,
      (pass step s as).1 ++ emerge (pass step s as).2 (queue (pass step s as).2 ++ rest)
        = emerge s (queue s ++ (as.flatMap accept ++ rest)) := by
  -- The induction is on the list. What follows it may be anything, so one item more is no harm.
  induction as generalizing s with
  | nil => exact ⟨hs, fun rest => rfl⟩
  | cons a as ih =>
      rcases List.forall_mem_cons.mp has with ⟨ha, has⟩
      rcases hstep s a hs ha with ⟨hvalid, hone⟩
      rcases ih (step s a).2 hvalid has with ⟨hvalid', hrest⟩
      refine ⟨hvalid', fun rest => ?_⟩
      rw [pass_cons, List.append_assoc, hrest, hone, List.flatMap_cons, List.append_assoc]

end Recode
