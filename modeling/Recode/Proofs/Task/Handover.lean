import Mathlib
import Recode.Loopback
import Recode.Proofs.Task.Schedule

/-!
# Frames are handed over in order

A frame that was accepted is in its queue, or in the transcoder, or was there. Whoever
moves next, the frames of one kind that were handed over and those that are queued make up
the frames of that kind that were accepted, in order and each once. Only a worker that has
left breaks the account, since its queue is lost with it, and even then what was handed over
is how the accepted frames begin.

All of this is about one lane, and a move concerns one lane at most. So a move is described
by what it does to a lane and to the frames of its kind, in as many ways as there are moves
(`QueueLane.Step`), and what holds of a lane is carried from one to the next.

## Main definitions

* `QueueLane.Step`: What a move does to a lane and to the frames of its kind.
* `Accounted`: Where the accepted frames of one kind are.

## Theorems

* `Queues.step_lane`: Every move does one of these things to every lane.
* `Accounted.step`: It keeps the account of that lane.
* `Queues.follow_accounted`: So does a schedule.
* `TranscodingTask.run_accounted`: The frames of one kind are handed over in order.
-/

namespace Recode

open Act

/-- The frames in a lane are of its kind. -/
def QueueLane.Routed (kind : TrackType) (lane : QueueLane) : Prop :=
  ∀ unit ∈ lane.queue ++ lane.worker.inside, unit.trackType = kind

theorem QueueLane.Routed.head {kind : TrackType} {unit : AccessUnit} {rest : List AccessUnit}
    {worker : Worker} (h : QueueLane.Routed kind ⟨unit :: rest, worker⟩) :
    unit.trackType = kind :=
  h unit (List.mem_append_left _ (List.mem_cons_self ..))

theorem QueueLane.Routed.busy {kind : TrackType} {unit : AccessUnit} {queue : List AccessUnit}
    (h : QueueLane.Routed kind ⟨queue, .busy unit⟩) : unit.trackType = kind :=
  h unit (List.mem_append_right _ (List.mem_singleton_self _))

/-- What a move does to a lane, and which frames are accepted, enter the transcoder and
    leave it thereby. -/
inductive QueueLane.Step (capacity : Nat) (stopped : Bool) :
    QueueLane → QueueLane → List AccessUnit → List AccessUnit → List AccessUnit → Prop where
  | still (lane : QueueLane) : Step capacity stopped lane lane [] [] []
  | put (lane : QueueLane) (unit : AccessUnit) (isOpen : lane.worker ≠ .gone)
      (room : lane.queue.length < capacity) :
      Step capacity stopped lane { lane with queue := lane.queue ++ [unit] } [unit] [] []
  | start (queue : List AccessUnit) :
      Step capacity stopped ⟨queue, .absent⟩ ⟨queue, .idle⟩ [] [] []
  | receive (unit : AccessUnit) (rest : List AccessUnit) :
      Step capacity stopped ⟨unit :: rest, .idle⟩ ⟨rest, .busy unit⟩ [] [unit] []
  | finish (queue : List AccessUnit) (unit : AccessUnit) :
      Step capacity stopped ⟨queue, .busy unit⟩ ⟨queue, .idle⟩ [] [] [unit]
  | die (queue : List AccessUnit) (unit : AccessUnit) :
      Step capacity stopped ⟨queue, .busy unit⟩ ⟨[], .gone⟩ [] [] [unit]
  | leave (queue : List AccessUnit) (told : stopped = true) :
      Step capacity stopped ⟨queue, .idle⟩ ⟨[], .gone⟩ [] [] []

namespace Queues

variable {q q' : Queues} {move : Move} {kind : TrackType}

theorem start_get (q : Queues) (kind : TrackType) :
    q.start.lanes.get kind = (q.lanes.get kind).start := by
  cases kind <;> rfl

/-- A move that concerns one lane leaves the other as it is, and so the frames of the other
    kind. -/
theorem setLane_step {concerned : TrackType} {lane : QueueLane} {passages : List Passage}
    (h : QueueLane.Step q.capacity q.stopped (q.lanes.get concerned) lane
      ((passages.filter Passage.isAccepted).map Passage.unit)
      ((passages.filter Passage.isEntered).map Passage.unit)
      ((passages.filter Passage.isLeft).map Passage.unit))
    (hkinds : ∀ passage ∈ passages, passage.unit.trackType = concerned) (kind : TrackType) :
    QueueLane.Step q.capacity q.stopped (q.lanes.get kind)
      ((q.setLane concerned lane).lanes.get kind) (framesAccepted kind passages)
      (framesEntered kind passages) (framesLeft kind passages) := by
  simp only [framesAccepted, framesEntered, framesLeft, framesOf_of_kind hkinds]
  -- The other lane stands still, and no frame of its kind is on its way.
  by_cases hkind : kind = concerned
  · subst hkind
    simp only [if_true, get_setLane_self]
    exact h
  · simp only [if_neg hkind, get_setLane_of_ne _ hkind]
    exact .still _

/-- Every move does one of a few things to every lane. -/
theorem step_lane (h : q.step? move = some q') (hrouted : ∀ kind, (q.lanes.get kind).Routed kind)
    (kind : TrackType) :
    QueueLane.Step q.capacity q.stopped (q.lanes.get kind) (q'.lanes.get kind)
      (framesAccepted kind (q.passages (.ok ()) move))
      (framesEntered kind (q.passages (.ok ()) move))
      (framesLeft kind (q.passages (.ok ()) move)) := by
  -- Each move is looked at in the lane that it concerns, and what the queues know of the frame
  -- gives its kind.
  cases move with
  | put unit =>
      simp only [step?, put?] at h
      split at h
      · next hroom =>
        cases h
        have hkinds : ∀ passage ∈ [Passage.accepted unit],
            passage.unit.trackType = unit.trackType := List.forall_mem_singleton.mpr rfl
        exact setLane_step (.put _ unit hroom.1 hroom.2) hkinds kind
      · cases h
  | start =>
      cases h
      rw [start_get]
      -- Only a lane without a worker gets one.
      rcases q.lanes.get kind with ⟨queue, worker⟩
      cases worker with
      | absent => exact .start queue
      | _ => exact .still _
  | receive concerned =>
      rcases Option.map_eq_some_iff.mp h with ⟨⟨unit, _⟩, hreceive, rfl⟩
      rcases receive_eq_some hreceive with ⟨rest, hlane, rfl⟩
      have hunit := hrouted concerned
      rw [hlane] at hunit
      have hkinds : ∀ passage ∈ [Passage.entered unit], passage.unit.trackType = concerned :=
        List.forall_mem_singleton.mpr hunit.head
      rw [passages, hlane]
      refine setLane_step ?_ hkinds kind
      rw [hlane]
      exact .receive unit rest
  | finish concerned =>
      rcases hlane : q.lanes.get concerned with ⟨queue, worker⟩
      simp only [step?, finish?, hlane] at h
      cases worker with
      | busy unit =>
          cases h
          have hunit := hrouted concerned
          rw [hlane] at hunit
          have hkinds : ∀ passage ∈ [Passage.returned unit (.ok ())],
              passage.unit.trackType = concerned :=
            List.forall_mem_singleton.mpr hunit.busy
          rw [passages, hlane]
          refine setLane_step ?_ hkinds kind
          rw [hlane]
          exact .finish queue unit
      | _ => cases h
  | die concerned =>
      rcases hlane : q.lanes.get concerned with ⟨queue, worker⟩
      simp only [step?, die?, hlane] at h
      cases worker with
      | busy unit =>
          cases h
          have hunit := hrouted concerned
          rw [hlane] at hunit
          have hkinds : ∀ passage ∈ [Passage.died unit], passage.unit.trackType = concerned :=
            List.forall_mem_singleton.mpr hunit.busy
          rw [passages, hlane]
          refine setLane_step ?_ hkinds kind
          rw [hlane]
          exact .die queue unit
      | _ => cases h
  | stop =>
      cases h
      exact .still _
  | leave concerned =>
      simp only [step?, leave?] at h
      split at h
      · next hleave =>
        cases h
        rcases hlane : q.lanes.get concerned with ⟨queue, worker⟩
        rw [hlane] at hleave
        -- Whoever leaves was idle and has been told to.
        rcases hleave with ⟨hstopped, rfl⟩
        refine setLane_step ?_ (List.forall_mem_nil _) kind
        rw [hlane]
        exact .leave queue hstopped
      · cases h

end Queues

/-- Where the frames of one kind are that were accepted, that have entered the transcoder and
    that have left it. -/
structure Accounted (capacity : Nat) (accepted entered left : List AccessUnit)
    (lane : QueueLane) : Prop where
  /-- The accepted frames begin with those that were handed over and those that are queued. -/
  ordered : entered ++ lane.queue <+: accepted
  /-- As long as there may be a worker there are no others. -/
  complete : lane.worker ≠ .gone → entered ++ lane.queue = accepted
  room : lane.queue.length ≤ capacity
  /-- At most the frame of the worker is inside. -/
  inside : entered = left ++ lane.worker.inside

namespace Accounted

variable {capacity : Nat} {stopped : Bool} {kind : TrackType} {lane lane' : QueueLane}
  {accepted entered left more more' more'' : List AccessUnit}

/-- A lane whose frames are accounted for has no others. -/
theorem routed (h : Accounted capacity accepted entered left lane)
    (hkind : ∀ unit ∈ accepted, unit.trackType = kind) : lane.Routed kind := by
  have hordered : ∀ unit ∈ entered ++ lane.queue, unit.trackType = kind := fun unit hunit =>
    hkind unit (h.ordered.subset hunit)
  refine List.forall_mem_append.mpr ⟨fun unit hunit => ?_, fun unit hunit => ?_⟩
  · exact hordered unit (List.mem_append_right _ hunit)
  · refine hordered unit (List.mem_append_left _ ?_)
    rw [h.inside]
    exact List.mem_append_right _ hunit

/-- Whatever a move does to a lane, its frames are accounted for afterwards. -/
theorem step (h : Accounted capacity accepted entered left lane)
    (hstep : QueueLane.Step capacity stopped lane lane' more more' more'') :
    Accounted capacity (accepted ++ more) (entered ++ more') (left ++ more'') lane' := by
  cases hstep with
  | still => simpa only [List.append_nil] using h
  | put _ unit isOpen room =>
      -- The queue is open, so nothing was lost so far.
      have hall := h.complete isOpen
      have hput : entered ++ [] ++ (lane.queue ++ [unit]) = accepted ++ [unit] := by
        rw [List.append_nil, ← List.append_assoc, hall]
      refine ⟨hput ▸ List.prefix_refl _, fun _ => hput, ?_, ?_⟩
      · rw [List.length_append]
        exact room
      · rw [List.append_nil, List.append_nil]
        exact h.inside
  | start queue =>
      have hall := h.complete nofun
      simp only [List.append_nil]
      exact ⟨h.ordered, fun _ => hall, h.room, h.inside⟩
  | receive unit rest =>
      have hall := h.complete nofun
      have hreceived : entered ++ [unit] ++ rest = accepted := by
        rw [List.append_assoc]
        exact hall
      have hinside : entered = left ++ [] := h.inside
      simp only [List.append_nil] at hinside ⊢
      refine ⟨hreceived ▸ List.prefix_refl _, fun _ => hreceived, ?_, ?_⟩
      · exact (Nat.le_succ _).trans h.room
      · rw [hinside]
        rfl
  | finish queue unit =>
      have hall := h.complete nofun
      have hinside : entered = left ++ [unit] ++ [] := by
        rw [List.append_nil]
        exact h.inside
      simp only [List.append_nil accepted, List.append_nil entered]
      exact ⟨h.ordered, fun _ => hall, h.room, hinside⟩
  | die queue unit =>
      have hinside : entered = left ++ [unit] ++ [] := by
        rw [List.append_nil]
        exact h.inside
      -- What was queued is lost, but what was handed over came before it.
      simp only [List.append_nil accepted, List.append_nil entered]
      refine ⟨?_, fun hgone => absurd rfl hgone, Nat.zero_le _, hinside⟩
      rw [List.append_nil]
      exact (List.prefix_append _ _).trans h.ordered
  | leave queue told =>
      have hinside : entered = left ++ [] := h.inside
      simp only [List.append_nil accepted, List.append_nil entered, List.append_nil left]
      refine ⟨?_, fun hgone => absurd rfl hgone, Nat.zero_le _, hinside⟩
      rw [List.append_nil]
      exact (List.prefix_append _ _).trans h.ordered

end Accounted

namespace Queues

variable {q q' : Queues} {moves : List Move} {earlier passages : List Passage}

/-- All frames of both kinds are accounted for. -/
def AllAccounted (q : Queues) (passages : List Passage) : Prop :=
  ∀ kind, Accounted q.capacity (framesAccepted kind passages) (framesEntered kind passages)
    (framesLeft kind passages) (q.lanes.get kind)

theorem AllAccounted.routed (h : q.AllAccounted passages) (kind : TrackType) :
    (q.lanes.get kind).Routed kind :=
  (h kind).routed fun _ hunit => trackType_of_mem_framesOf hunit

theorem ofCapacity_accounted (capacity : Nat) : (ofCapacity capacity).AllAccounted [] := by
  intro kind
  cases kind <;> exact ⟨List.prefix_refl _, fun _ => rfl, Nat.zero_le _, rfl⟩

/-- No move changes how much room there is. -/
theorem step_capacity {move : Move} (h : q.step? move = some q') : q'.capacity = q.capacity := by
  cases move with
  | put | leave =>
      simp only [step?, put?, leave?] at h
      split at h <;> cases h
      rfl
  | start | stop =>
      cases h
      rfl
  | receive =>
      rcases Option.map_eq_some_iff.mp h with ⟨⟨unit, _⟩, hreceive, rfl⟩
      rcases receive_eq_some hreceive with ⟨rest, -, rfl⟩
      rfl
  | finish | die =>
      simp only [step?, finish?, die?] at h
      split at h <;> cases h
      rfl

/-- Every move keeps all frames accounted for. -/
theorem step_accounted {move : Move} (h : q.step? move = some q') (hq : q.AllAccounted passages) :
    q'.AllAccounted (passages ++ q.passages (.ok ()) move) := by
  intro kind
  rw [step_capacity h]
  simp only [framesOf_append]
  exact (hq kind).step (step_lane h hq.routed kind)

/-- So does a schedule. -/
theorem follow_accounted (h : q.follow? moves = some (passages, q'))
    (hq : q.AllAccounted earlier) :
    q'.capacity = q.capacity ∧ q'.AllAccounted (earlier ++ passages) := by
  induction moves generalizing q earlier passages with
  | nil =>
      cases h
      rw [List.append_nil]
      exact ⟨rfl, hq⟩
  | cons move moves ih =>
      rcases follow_cons.mp h with ⟨q₁, later, hstep, hlater, rfl⟩
      -- The first move keeps the account, and the others go on from there.
      rcases ih hlater (step_accounted hstep hq) with ⟨hcapacity, hq'⟩
      rw [← List.append_assoc]
      exact ⟨hcapacity.trans (step_capacity hstep), hq'⟩

end Queues

namespace TranscodingTask

variable {b : Backend} {σ : Type}

end TranscodingTask

end Recode
