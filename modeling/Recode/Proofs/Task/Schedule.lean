import Recode.Task.Settling

/-!
# Schedules of a task

Producers, workers and whoever gives the signal to stop move in an order that nobody
prescribes. A schedule is one such order, and what can be said about a task is said about
every schedule that is possible. The transcoder is asked when a worker is done with its
frame; what it answers is part of what happens, and goes nowhere else.

So the queues do not depend on the transcoder at all. Two tasks that are scheduled alike
hand over the same frames and stay alike in their queues, whatever becomes of the frames in
the end.

The running code settles a task in one go. That is a schedule like any other.

## Main definitions

* `Passage`: Something that happens to a frame on its way.
* `framesAccepted`, `framesEntered`, `framesLeft`: The frames of one kind to which it
  happened.
* `Queues.follow?`: The queues alone follow a schedule.
* `TranscodingTask.step`, `TranscodingTask.run`: A task makes one move, or follows a
  schedule.

## Theorems

* `Queues.follow_append`, `TranscodingTask.run_append`: Schedules in a row.
* `TranscodingTask.run_plain`: The queues of a task do what they do alone.
* `TranscodingTask.settle_run`: Settling follows a schedule.
-/

namespace Recode

open Act

variable {b : Backend} {σ : Type}

/-- Something that happens to a frame on its way. -/
inductive Passage where
  /-- A producer has put it into its queue. -/
  | accepted (unit : AccessUnit)
  /-- A worker has handed it to the transcoder. -/
  | entered (unit : AccessUnit)
  /-- The transcoder is done with it. -/
  | returned (unit : AccessUnit) (outcome : Except Fault Unit)
  /-- The worker has died of it. -/
  | died (unit : AccessUnit)

namespace Passage

/-- The frame. -/
def unit : Passage → AccessUnit
  | accepted unit | entered unit | returned unit _ | died unit => unit

/-- The frame was put into its queue. -/
def isAccepted : Passage → Bool
  | accepted _ => true
  | _ => false

/-- The frame was handed to the transcoder. -/
def isEntered : Passage → Bool
  | entered _ => true
  | _ => false

/-- The frame is in the transcoder no more. -/
def isLeft : Passage → Bool
  | returned .. | died _ => true
  | _ => false

/-- What the queues know of it. -/
def plain : Passage → Passage
  | returned unit _ => returned unit (.ok ())
  | passage => passage

end Passage

/-- The frames of one kind that some of the passages are about. -/
def framesOf (is : Passage → Bool) (kind : TrackType) (passages : List Passage) :
    List AccessUnit :=
  ((passages.filter is).map Passage.unit).filter fun unit => unit.trackType = kind

/-- The frames of one kind that were put into their queue. -/
abbrev framesAccepted : TrackType → List Passage → List AccessUnit := framesOf Passage.isAccepted

/-- The frames of one kind that were handed to the transcoder. -/
abbrev framesEntered : TrackType → List Passage → List AccessUnit := framesOf Passage.isEntered

/-- The frames of one kind that are in the transcoder no more. -/
abbrev framesLeft : TrackType → List Passage → List AccessUnit := framesOf Passage.isLeft

section

variable {is : Passage → Bool} {kind : TrackType} {passages more : List Passage}

@[simp] theorem framesOf_append : framesOf is kind (passages ++ more)
    = framesOf is kind passages ++ framesOf is kind more := by
  simp only [framesOf, List.filter_append, List.map_append]

theorem framesOf_eq_nil (h : ∀ passage ∈ passages, is passage = false) :
    framesOf is kind passages = [] := by
  have hfilter : passages.filter is = [] :=
    List.filter_eq_nil_iff.mpr fun passage hpassage heq =>
      Bool.false_ne_true ((h passage hpassage).symm.trans heq)
  rw [framesOf, hfilter]
  rfl

theorem trackType_of_mem_framesOf {unit : AccessUnit} (h : unit ∈ framesOf is kind passages) :
    unit.trackType = kind :=
  of_decide_eq_true (List.mem_filter.mp h).2

/-- Passages about frames of one kind have these frames for that kind, and none for the
    other. -/
theorem framesOf_of_kind {concerned : TrackType}
    (h : ∀ passage ∈ passages, passage.unit.trackType = concerned) :
    framesOf is kind passages
      = if kind = concerned then (passages.filter is).map Passage.unit else [] := by
  have hkinds : ∀ unit ∈ (passages.filter is).map Passage.unit, unit.trackType = concerned := by
    intro unit hunit
    rcases List.mem_map.mp hunit with ⟨passage, hpassage, rfl⟩
    exact h passage (List.mem_filter.mp hpassage).1
  -- All of them are of one kind, so none is left out, or all are.
  by_cases hkind : kind = concerned
  · rw [if_pos hkind]
    exact List.filter_eq_self.mpr fun unit hunit => decide_eq_true (hkind ▸ hkinds unit hunit)
  · rw [if_neg hkind]
    refine List.filter_eq_nil_iff.mpr fun unit hunit heq => hkind ?_
    exact (of_decide_eq_true heq).symm.trans (hkinds unit hunit)

/-- What the transcoder answered makes no difference to the frames. -/
theorem framesOf_plain (h : ∀ passage, is passage.plain = is passage) :
    framesOf is kind (passages.map Passage.plain) = framesOf is kind passages := by
  have his : is ∘ Passage.plain = is := funext h
  have hunit : Passage.unit ∘ Passage.plain = Passage.unit :=
    funext fun passage => by cases passage <;> rfl
  have hfilter : (passages.map Passage.plain).filter is
      = (passages.filter is).map Passage.plain := by
    rw [List.filter_map, his]
  rw [framesOf, hfilter, List.map_map, hunit, framesOf]

end

@[simp] theorem framesAccepted_plain (kind : TrackType) (passages : List Passage) :
    framesAccepted kind (passages.map Passage.plain) = framesAccepted kind passages :=
  framesOf_plain fun passage => by cases passage <;> rfl

@[simp] theorem framesEntered_plain (kind : TrackType) (passages : List Passage) :
    framesEntered kind (passages.map Passage.plain) = framesEntered kind passages :=
  framesOf_plain fun passage => by cases passage <;> rfl

/-- The frame that a worker has handed over and that is not done yet. -/
def Worker.inside : Worker → List AccessUnit
  | .busy unit => [unit]
  | _ => []

namespace Queues

/-- What a move does to frames, given how the transcoder was done with the one that is
    finished, if any. -/
def passages (q : Queues) (outcome : Except Fault Unit) : Move → List Passage
  | .put unit => [.accepted unit]
  | .receive kind => ((q.lanes.get kind).queue.take 1).map .entered
  | .finish kind => (q.lanes.get kind).worker.inside.map (.returned · outcome)
  | .die kind => (q.lanes.get kind).worker.inside.map .died
  | .start | .stop | .leave _ => []

/-- The queues know what happens to a frame, and not how it ends. -/
theorem passages_plain (q : Queues) (outcome : Except Fault Unit) (move : Move) :
    (q.passages outcome move).map Passage.plain = q.passages (.ok ()) move := by
  cases move <;> simp only [passages, List.map_map, List.map_cons, List.map_nil] <;> rfl

/-- Follows a schedule, if all its moves are possible. -/
def follow? (q : Queues) : List Move → Option (List Passage × Queues)
  | [] => some ([], q)
  | move :: moves => do
    let after ← q.step? move
    let (rest, last) ← after.follow? moves
    return (q.passages (.ok ()) move ++ rest, last)

variable {q q' q'' : Queues} {move : Move} {moves : List Move} {rest : List Passage}

/-- A schedule is followed move by move. -/
theorem follow_cons : q.follow? (move :: moves) = some (rest, q'')
    ↔ ∃ q' later, q.step? move = some q' ∧ q'.follow? moves = some (later, q'')
      ∧ rest = q.passages (.ok ()) move ++ later := by
  simp only [follow?, Option.bind_eq_bind, Option.bind_eq_some_iff, Option.pure_def,
    Option.some.injEq, Prod.mk.injEq, Prod.exists]
  constructor
  · rintro ⟨q', hstep, later, last, hrest, rfl, rfl⟩
    exact ⟨q', later, hstep, hrest, rfl⟩
  · rintro ⟨q', later, hstep, hrest, rfl⟩
    exact ⟨q', hstep, later, q'', hrest, rfl, rfl⟩

/-- Two schedules in a row. -/
theorem follow_append {before after : List Move} {first second : List Passage}
    (h : q.follow? before = some (first, q')) (h' : q'.follow? after = some (second, q'')) :
    q.follow? (before ++ after) = some (first ++ second, q'') := by
  induction before generalizing q first with
  | nil =>
      cases h
      exact h'
  | cons move before ih =>
      rcases follow_cons.mp h with ⟨q₁, later, hstep, hlater, rfl⟩
      exact follow_cons.mpr ⟨q₁, later ++ second, hstep, ih hlater, List.append_assoc ..⟩

end Queues

namespace TranscodingTask

/-- What the transcoder does in a move: it is asked when a worker is done. -/
def call (e : Engine b σ) (sink : Sink σ) (move : Queues.Move) (t : TranscodingTask b) :
    Act σ (Except Fault Unit × Transcoder b) :=
  match move with
  | .finish kind =>
    match (t.queues.lanes.get kind).worker with
    | .busy unit => t.transcoder.inputFrame e sink unit
    | _ => return (.ok (), t.transcoder)
  | _ => return (.ok (), t.transcoder)

/-- Makes a move, if it is possible. -/
def step (e : Engine b σ) (sink : Sink σ) (move : Queues.Move) (t : TranscodingTask b) :
    Act σ (Option (List Passage × TranscodingTask b)) :=
  match t.queues.step? move with
  | none => return none
  | some queues => do
    let (outcome, transcoder) ← t.call e sink move
    return some (t.queues.passages outcome move, { t with transcoder, queues })

/-- Follows a schedule, if all its moves are possible. -/
def run (e : Engine b σ) (sink : Sink σ) :
    List Queues.Move → TranscodingTask b → Act σ (Option (List Passage × TranscodingTask b))
  | [], t => return some ([], t)
  | move :: moves, t => do
    match ← t.step e sink move with
    | none => return none
    | some (first, t) =>
      match ← run e sink moves t with
      | none => return none
      | some (rest, t) => return some (first ++ rest, t)

/-- What the queues know of a run. -/
def queuesOf (r : Option (List Passage × TranscodingTask b)) : Option (List Passage × Queues) :=
  r.map fun r => (r.1.map Passage.plain, r.2.queues)

variable {t t' t'' : TranscodingTask b} {move : Queues.Move} {moves : List Queues.Move}

theorem run_cons_none (e : Engine b σ) (sink : Sink σ) (h : t.queues.step? move = none) :
    t.run e sink (move :: moves) = pure none := by
  rw [run, step, h]
  rfl

theorem run_cons_some (e : Engine b σ) (sink : Sink σ) {queues : Queues}
    (h : t.queues.step? move = some queues) :
    t.run e sink (move :: moves) = (do
      let (outcome, transcoder) ← t.call e sink move
      match ← run e sink moves { t with transcoder, queues } with
      | none => return none
      | some (rest, t') => return some (t.queues.passages outcome move ++ rest, t')) := by
  rw [run, step, h]
  simp only [bind_assoc, pure_bind]

/-- The queues of a task do what they do alone, whatever the transcoder makes of the frames. -/
theorem run_plain (e : Engine b σ) (sink : Sink σ) (moves : List Queues.Move)
    (t : TranscodingTask b) (w : σ) :
    queuesOf (t.run e sink moves w).value = t.queues.follow? moves := by
  induction moves generalizing t w with
  | nil => rfl
  | cons move moves ih =>
      rcases hqueues : t.queues.step? move with _ | queues
      · rw [run_cons_none e sink hqueues, Queues.follow?, hqueues]
        rfl
      · rw [run_cons_some e sink hqueues, Queues.follow?, hqueues]
        simp only [bind_value, Option.bind_eq_bind, Option.bind_some]
        -- The rest is followed by a task with these queues and some transcoder.
        have hrest := ih { t with transcoder := (t.call e sink move w).value.2, queues }
          (t.call e sink move w).world
        rw [← hrest]
        rcases (run e sink moves { t with transcoder := (t.call e sink move w).value.2, queues }
          (t.call e sink move w).world).value with _ | ⟨rest, t'⟩
        · rfl
        · simp only [queuesOf, Option.map_some, pure_value, List.map_append,
            Queues.passages_plain, Option.bind_some]
          rfl

/-- A schedule that a task has followed is one that its queues can follow. -/
theorem follow_of_run {e : Engine b σ} {sink : Sink σ} {passages : List Passage} {w : σ}
    (h : (t.run e sink moves w).value = some (passages, t')) :
    t.queues.follow? moves = some (passages.map Passage.plain, t'.queues) := by
  rw [← run_plain e sink moves t w, h]
  rfl

/-- What the queues can do a task can do, with any transcoder. -/
theorem run_of_follow (e : Engine b σ) (sink : Sink σ) {passages : List Passage} {q : Queues}
    (h : t.queues.follow? moves = some (passages, q)) (w : σ) :
    ∃ passages' t', (t.run e sink moves w).value = some (passages', t')
      ∧ passages = passages'.map Passage.plain ∧ q = t'.queues := by
  rw [← run_plain e sink moves t w] at h
  rcases Option.map_eq_some_iff.mp h with ⟨⟨passages', t'⟩, hrun, heq⟩
  cases heq
  exact ⟨passages', t', hrun, rfl, rfl⟩

/-- Two schedules in a row. -/
theorem run_append (e : Engine b σ) (sink : Sink σ) {before after : List Queues.Move}
    {first rest : List Passage} {notes more : List Note} {w w' w'' : σ}
    (h : t.run e sink before w = ⟨some (first, t'), notes, w'⟩)
    (h' : t'.run e sink after w' = ⟨some (rest, t''), more, w''⟩) :
    t.run e sink (before ++ after) w = ⟨some (first ++ rest, t''), notes ++ more, w''⟩ := by
  -- The induction is on the first schedule, whose moves are all possible.
  induction before generalizing t w first notes with
  | nil =>
      cases h
      exact h'
  | cons move before ih =>
      rcases hqueues : t.queues.step? move with _ | queues
      · rw [run_cons_none e sink hqueues] at h
        cases h
      · rw [run_cons_some e sink hqueues, bind_apply] at h
        rw [List.cons_append, run_cons_some e sink hqueues, bind_apply]
        simp only [bind_apply] at h ⊢
        rcases hrun : run e sink before
          { t with transcoder := (t.call e sink move w).value.2, queues }
          (t.call e sink move w).world with ⟨_ | ⟨later, t₁⟩, notes', w₁⟩
        · rw [hrun] at h
          cases h
        · rw [hrun] at h
          cases h
          rw [ih hrun]
          simp only [pure_apply, List.append_nil, List.append_assoc]

end TranscodingTask

namespace Queues

variable {q q' : Queues} {kind : TrackType} {unit : AccessUnit}

/-- A frame is received from the head of the queue by an idle worker. -/
theorem receive_eq_some (h : q.receive? kind = some (unit, q')) :
    ∃ rest, q.lanes.get kind = ⟨unit :: rest, .idle⟩
      ∧ q' = q.setLane kind ⟨rest, .busy unit⟩ := by
  rcases hlane : q.lanes.get kind with ⟨_ | ⟨first, rest⟩, worker⟩
  · cases worker <;> simp only [receive?, hlane] at h <;> cases h
  · cases worker <;> simp only [receive?, hlane] at h <;> cases h
    exact ⟨rest, rfl, rfl⟩

@[simp] theorem get_setLane_self (q : Queues) (kind : TrackType) (lane : QueueLane) :
    (q.setLane kind lane).lanes.get kind = lane := Lanes.get_set_self ..

theorem get_setLane_of_ne (q : Queues) {k kind : TrackType} (h : k ≠ kind) (lane : QueueLane) :
    (q.setLane kind lane).lanes.get k = q.lanes.get k := Lanes.get_set_of_ne _ h _

end Queues

namespace TranscodingTask

variable {t : TranscodingTask b} {kind : TrackType} {unit : AccessUnit} {queues : Queues}
  {move : Queues.Move}

/-- A move in which the transcoder is not asked. -/
theorem run_silent (e : Engine b σ) (sink : Sink σ) (h : t.queues.step? move = some queues)
    (hcall : t.call e sink move = pure (.ok (), t.transcoder)) (w : σ) :
    t.run e sink [move] w
      = ⟨some (t.queues.passages (.ok ()) move, { t with queues }), [], w⟩ := by
  rw [run_cons_some e sink h, hcall, pure_bind]
  simp only [run, pure_bind, List.append_nil]
  rfl

/-- A worker receives a frame. -/
theorem run_receive (e : Engine b σ) (sink : Sink σ)
    (h : t.queues.receive? kind = some (unit, queues)) (w : σ) :
    t.run e sink [.receive kind] w = ⟨some ([.entered unit], { t with queues }), [], w⟩ := by
  have hstep : t.queues.step? (.receive kind) = some queues := by
    rw [Queues.step?, h]
    rfl
  rcases Queues.receive_eq_some h with ⟨rest, hlane, -⟩
  rw [run_silent e sink hstep rfl, Queues.passages, hlane]
  rfl

/-- A worker dies of its frame. -/
theorem run_die (e : Engine b σ) (sink : Sink σ)
    (h : (t.queues.lanes.get kind).worker = .busy unit) (w : σ) :
    t.run e sink [.die kind] w = ⟨some ([.died unit],
      { t with queues := (t.queues.die? kind).getD t.queues }), [], w⟩ := by
  have hdie : t.queues.die? kind = some (t.queues.setLane kind { worker := .gone }) := by
    simp only [Queues.die?, h]
  have hstep : t.queues.step? (.die kind) = some _ := hdie
  rw [run_silent e sink hstep rfl, Queues.passages, h, hdie]
  rfl

/-- A worker is done with its frame. -/
theorem run_finish (e : Engine b σ) (sink : Sink σ)
    (h : (t.queues.lanes.get kind).worker = .busy unit) (w : σ) :
    let answer := t.transcoder.inputFrame e sink unit w
    t.run e sink [.finish kind] w = ⟨some ([.returned unit answer.value.1],
      { t with
        transcoder := answer.value.2
        queues := (t.queues.finish? kind).getD t.queues }), answer.notes, answer.world⟩ := by
  intro answer
  have hfinish : t.queues.finish? kind
      = some (t.queues.setLane kind { t.queues.lanes.get kind with worker := .idle }) := by
    simp only [Queues.finish?, h]
  have hstep : t.queues.step? (.finish kind) = some _ := hfinish
  -- This is the one move that asks the transcoder.
  have hcall : t.call e sink (.finish kind) = t.transcoder.inputFrame e sink unit := by
    simp only [call, h]
  rw [run_cons_some e sink hstep, hcall, hfinish]
  simp only [run, pure_bind, bind_apply, pure_apply, List.append_nil, Queues.passages, h]
  rfl

/-- A worker leaves, if it has been told to. -/
theorem run_leave (e : Engine b σ) (sink : Sink σ) (kind : TrackType) (t : TranscodingTask b)
    (w : σ) :
    ∃ moves, t.run e sink moves w = ⟨some ([], t.leaveLane kind), [], w⟩ := by
  rcases hleave : t.queues.leave? kind with _ | queues
  · refine ⟨[], ?_⟩
    rw [leaveLane, hleave]
    rfl
  · have hstep : t.queues.step? (.leave kind) = some queues := hleave
    refine ⟨[.leave kind], ?_⟩
    rw [run_silent e sink hstep rfl, leaveLane, hleave]
    rfl

theorem settleLane_none (e : Engine b σ) (sink : Sink σ) (fatal : AccessUnit → Bool)
    (h : t.queues.receive? kind = none) : t.settleLane e sink fatal kind = pure t := by
  rw [settleLane]
  -- The recursion matches with an equation, so that it can be seen to end.
  split
  · rfl
  · next heq => cases h.symm.trans heq

theorem settleLane_some (e : Engine b σ) (sink : Sink σ) (fatal : AccessUnit → Bool)
    (h : t.queues.receive? kind = some (unit, queues)) :
    t.settleLane e sink fatal kind =
      (if fatal unit then pure { t with queues := (queues.die? kind).getD queues }
      else do
        let (_, transcoder) ← t.transcoder.inputFrame e sink unit
        settleLane e sink fatal kind
          { t with transcoder, queues := (queues.finish? kind).getD queues }) := by
  rw [settleLane]
  split
  · next heq => cases h.symm.trans heq
  · next heq =>
    cases h.symm.trans heq
    rfl

/-- A worker that processes its queue follows a schedule. -/
theorem settleLane_run (e : Engine b σ) (sink : Sink σ) (fatal : AccessUnit → Bool)
    (kind : TrackType) (t : TranscodingTask b) (w : σ) :
    ∃ moves passages, t.run e sink moves w
      = ⟨some (passages, (t.settleLane e sink fatal kind w).value),
          (t.settleLane e sink fatal kind w).notes, (t.settleLane e sink fatal kind w).world⟩ := by
  -- The induction is on the length of the queue, as the recursion is.
  induction hlength : (t.queues.lanes.get kind).queue.length using Nat.strongRecOn
    generalizing t w with
  | ind n ih =>
      rcases hreceive : t.queues.receive? kind with _ | ⟨unit, queues⟩
      · rw [settleLane_none e sink fatal hreceive]
        exact ⟨[], [], rfl⟩
      · rcases Queues.receive_eq_some hreceive with ⟨rest, hlane, hqueues⟩
        have hbusy : (queues.lanes.get kind).worker = .busy unit := by
          rw [hqueues, Queues.get_setLane_self]
        have hreceived := run_receive e sink hreceive w
        rw [settleLane_some e sink fatal hreceive]
        by_cases hfatal : fatal unit = true
        · rw [if_pos hfatal]
          exact ⟨_, _, run_append e sink hreceived (run_die e sink hbusy w)⟩
        · rw [if_neg hfatal]
          have hfinished := run_append e sink hreceived (run_finish e sink hbusy w)
          -- The queue is shorter by the frame that was received.
          have hshorter :
              (((queues.finish? kind).getD queues).lanes.get kind).queue.length < n := by
            rw [Queues.queue_of_finish, ← hlength]
            exact Queues.length_of_receive hreceive
          rcases ih _ hshorter
            { t with
              transcoder := (t.transcoder.inputFrame e sink unit w).value.2
              queues := (queues.finish? kind).getD queues } _ rfl with ⟨moves, passages, hrest⟩
          exact ⟨_, _, run_append e sink hfinished hrest⟩

/-- Settling follows a schedule: one worker after the other, and then they leave. -/
theorem settle_run (e : Engine b σ) (sink : Sink σ) (fatal : AccessUnit → Bool)
    (t : TranscodingTask b) (w : σ) :
    ∃ moves passages, t.run e sink moves w
      = ⟨some (passages, (t.settle e sink fatal w).value), (t.settle e sink fatal w).notes,
          (t.settle e sink fatal w).world⟩ := by
  rcases settleLane_run e sink fatal .audio t w with ⟨moves₁, passages₁, haudio⟩
  rcases settleLane_run e sink fatal .video (t.settleLane e sink fatal .audio w).value
    (t.settleLane e sink fatal .audio w).world with ⟨moves₂, passages₂, hvideo⟩
  rcases run_leave e sink .audio _ _ with ⟨moves₃, hleave⟩
  rcases run_leave e sink .video _ _ with ⟨moves₄, hleave'⟩
  -- Sound before pictures, and only then the workers leave.
  have hboth := run_append e sink (run_append e sink haudio hvideo)
    (run_append e sink hleave hleave')
  refine ⟨_, passages₁ ++ passages₂, hboth.trans ?_⟩
  simp only [settle, bind_apply, pure_apply, List.append_nil]

end TranscodingTask

end Recode
