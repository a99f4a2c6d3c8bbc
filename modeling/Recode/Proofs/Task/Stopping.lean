import Recode.Proofs.Observation
import Recode.Proofs.Task.Handover

/-!
# What is handed over after the signal to stop

The signal to stop is meant to discard what is queued. It does not, as long as there is a
worker to come or a worker that waits: when there is a frame in the queue as well, a worker
that waits takes either, the frame or the signal. So after the signal any number of the
frames that were queued can still be handed over, from the head of the queue on, and frames
that were put into it since come after them. All that is certain is that each of these
frames was received after the signal, and that nothing is handed over once the worker has
left.

A worker that followed the signal whenever it could would receive nothing after it, and then
the queue would be discarded.

## Main definitions

* `Queues.process`: A worker processes some frames.

## Theorems

* `Queues.follow_gone`: A worker that has left hands over nothing.
* `Queues.length_entered`: Frames are handed over by being received, and in no other way.
* `Queues.follow_process`: A worker that waits can process any number of the queued frames.
* `Queues.follow_stop_leave`, `Queues.follow_stop_put`: It can do so after the signal to stop,
  and more.
* `TranscodingTask.run_after_stop`: What is handed over after the signal to stop.
-/

namespace Recode

open Act

namespace QueueLane

variable {capacity : Nat} {stopped : Bool} {lane lane' : QueueLane}
  {accepted entered left : List AccessUnit}

/-- Nothing happens in a lane whose worker has left. -/
theorem Step.of_gone (h : Step capacity stopped lane lane' accepted entered left)
    (hgone : lane.worker = .gone) : lane'.worker = .gone ∧ entered = [] := by
  cases h with
  | still => exact ⟨hgone, rfl⟩
  | put _ unit isOpen => exact absurd hgone isOpen
  | _ => cases hgone

end QueueLane

namespace Queues

variable {q q' : Queues} {kind : TrackType} {move : Move} {moves : List Move}
  {earlier passages : List Passage}

/-- A worker that has left hands over nothing. -/
theorem follow_gone (h : q.follow? moves = some (passages, q')) (hq : q.AllAccounted earlier)
    (hgone : (q.lanes.get kind).worker = .gone) : framesEntered kind passages = [] := by
  induction moves generalizing q earlier passages with
  | nil =>
      cases h
      rfl
  | cons move moves ih =>
      rcases follow_cons.mp h with ⟨q₁, later, hstep, hlater, rfl⟩
      rcases (step_lane hstep hq.routed kind).of_gone hgone with ⟨hgone', hentered⟩
      simp only [framesOf_append, hentered, ih hlater (step_accounted hstep hq) hgone',
        List.append_nil]

theorem framesEntered_entered {unit : AccessUnit} (hunit : unit.trackType = kind) :
    framesEntered kind [.entered unit] = [unit] := by
  have hkinds : ∀ passage ∈ [Passage.entered unit], passage.unit.trackType = kind :=
    List.forall_mem_singleton.mpr hunit
  rw [framesEntered, framesOf_of_kind hkinds, if_pos rfl]
  rfl

/-- A frame is handed over by being received. -/
theorem length_entered_of_step (h : q.step? move = some q')
    (hrouted : ∀ kind, (q.lanes.get kind).Routed kind) (kind : TrackType) :
    (framesEntered kind (q.passages (.ok ()) move)).length = [move].count (.receive kind) := by
  -- Receiving is the only move that brings a frame in. What others have to say is about frames
  -- that leave.
  cases move with
  | receive concerned =>
      rcases Option.map_eq_some_iff.mp h with ⟨⟨unit, _⟩, hreceive, rfl⟩
      rcases receive_eq_some hreceive with ⟨rest, hlane, rfl⟩
      have hunit := hrouted concerned
      rw [hlane] at hunit
      have hkinds : ∀ passage ∈ [Passage.entered unit], passage.unit.trackType = concerned :=
        List.forall_mem_singleton.mpr hunit.head
      have hpassages : q.passages (.ok ()) (.receive concerned) = [.entered unit] := by
        rw [passages, hlane]
        rfl
      rw [hpassages, framesEntered, framesOf_of_kind hkinds]
      by_cases hkind : kind = concerned
      · rw [if_pos hkind, hkind, List.count_singleton_self]
        rfl
      · -- The frame is of the other kind, and so is the move.
        have hother : Move.receive concerned ≠ .receive kind := by
          rintro ⟨⟩
          exact hkind rfl
        rw [if_neg hkind, List.count_singleton, beq_false_of_ne hother]
        rfl
  | finish | die =>
      rw [passages, framesEntered, framesOf_eq_nil (List.forall_mem_map.mpr fun _ _ => rfl)]
      rfl
  | put | start | stop | leave => rfl

/-- Frames are handed over by being received, and in no other way. -/
theorem length_entered (h : q.follow? moves = some (passages, q')) (hq : q.AllAccounted earlier)
    (kind : TrackType) : (framesEntered kind passages).length = moves.count (.receive kind) := by
  induction moves generalizing q earlier passages with
  | nil =>
      cases h
      rfl
  | cons move moves ih =>
      rcases follow_cons.mp h with ⟨q₁, later, hstep, hlater, rfl⟩
      have hfirst := length_entered_of_step hstep hq.routed kind
      simp only [framesOf_append, List.length_append, hfirst,
        ih hlater (step_accounted hstep hq), ← List.count_append, List.singleton_append]

/-- A worker processes some frames. -/
def process (kind : TrackType) : Nat → List Move
  | 0 => []
  | n + 1 => .receive kind :: .finish kind :: process kind n

/-- A worker that waits can process any number of the queued frames, whether or not it was
    told to leave. -/
theorem follow_process {queue : List AccessUnit} (hlane : q.lanes.get kind = ⟨queue, .idle⟩)
    (hkind : ∀ unit ∈ queue, unit.trackType = kind) {n : Nat} (hn : n ≤ queue.length) :
    ∃ passages q', q.follow? (process kind n) = some (passages, q')
      ∧ framesEntered kind passages = queue.take n ∧ framesAccepted kind passages = []
      ∧ q'.lanes.get kind = ⟨queue.drop n, .idle⟩ ∧ q'.stopped = q.stopped := by
  -- Two moves for each frame: it is received, and then the worker is done with it.
  induction n generalizing q queue with
  | zero => exact ⟨[], q, rfl, rfl, rfl, hlane, rfl⟩
  | succ n ih =>
      cases queue with
      | nil => cases hn
      | cons unit rest =>
          rcases List.forall_mem_cons.mp hkind with ⟨hunit, hrest⟩
          let received := q.setLane kind ⟨rest, .busy unit⟩
          let finished := received.setLane kind ⟨rest, .idle⟩
          have hreceive : q.step? (.receive kind) = some received := by
            rw [step?, receive?, hlane]
            rfl
          have hfinish : received.step? (.finish kind) = some finished := by
            simp only [step?, finish?, received, get_setLane_self]
            rfl
          rcases ih (q := finished) (get_setLane_self ..) hrest (Nat.le_of_succ_le_succ hn) with
            ⟨later, q', hlater, hentered, haccepted, hlane', hstopped⟩
          have hpassages : q.passages (.ok ()) (.receive kind) = [.entered unit] := by
            rw [passages, hlane]
            rfl
          have hpassages' : received.passages (.ok ()) (.finish kind)
              = [.returned unit (.ok ())] := by
            simp only [passages, received, get_setLane_self]
            rfl
          refine ⟨_, q', follow_cons.mpr ⟨received, _, hreceive,
            follow_cons.mpr ⟨finished, later, hfinish, hlater, rfl⟩, rfl⟩, ?_, ?_, hlane', hstopped⟩
          · rw [hpassages, hpassages']
            simp only [framesOf_append, framesEntered_entered hunit, hentered]
            rfl
          · rw [hpassages, hpassages']
            exact haccepted

/-- After the signal to stop there can be a worker that waits, unless it has left already. -/
theorem follow_stop (hworker : (q.lanes.get kind).worker ≠ .gone) :
    ∃ moves passages q', q.follow? (.stop :: moves) = some (passages, q')
      ∧ framesEntered kind passages = [] ∧ framesAccepted kind passages = []
      ∧ q'.lanes.get kind = ⟨(q.lanes.get kind).queue, .idle⟩ ∧ q'.stopped = true := by
  have hstop : q.step? .stop = some q.stop := rfl
  rcases hlane : q.lanes.get kind with ⟨queue, worker⟩
  rw [hlane] at hworker
  have hlane : q.stop.lanes.get kind = ⟨queue, worker⟩ := hlane
  cases worker with
  | idle => exact ⟨[], [], q.stop, rfl, rfl, rfl, hlane, rfl⟩
  | absent =>
      -- The worker is started after the signal.
      refine ⟨[.start], [], q.stop.start, rfl, rfl, rfl, ?_, rfl⟩
      rw [start_get, hlane]
      rfl
  | busy unit =>
      -- The worker has to be done with its frame first.
      have hfinish : q.stop.step? (.finish kind) = some (q.stop.setLane kind ⟨queue, .idle⟩) := by
        rw [step?, finish?, hlane]
      have hpassages : q.stop.passages (.ok ()) (.finish kind) = [.returned unit (.ok ())] := by
        rw [passages, hlane]
        rfl
      refine ⟨[.finish kind], _, _, follow_cons.mpr ⟨_, _, hstop,
        follow_cons.mpr ⟨_, [], hfinish, rfl, rfl⟩, rfl⟩, ?_, ?_, get_setLane_self .., rfl⟩
      · rw [hpassages]
        rfl
      · rw [hpassages]
        rfl
  | gone => exact absurd rfl hworker

/-- After the signal to stop every number of the queued frames can be handed over before the
    worker leaves. -/
theorem follow_stop_leave (hq : q.AllAccounted earlier)
    (hworker : (q.lanes.get kind).worker ≠ .gone) {n : Nat}
    (hn : n ≤ (q.lanes.get kind).queue.length) :
    ∃ moves passages q', q.follow? (.stop :: moves) = some (passages, q')
      ∧ framesEntered kind passages = (q.lanes.get kind).queue.take n
      ∧ framesAccepted kind passages = [] ∧ (q'.lanes.get kind).worker = .gone := by
  have hkind : ∀ unit ∈ (q.lanes.get kind).queue, unit.trackType = kind := fun unit hunit =>
    hq.routed kind unit (List.mem_append_left _ hunit)
  rcases follow_stop hworker with ⟨waits, first, q₁, hfirst, hentered, haccepted, hlane, hstopped⟩
  rcases follow_process hlane hkind hn with
    ⟨second, q₂, hsecond, hentered', haccepted', hlane', hstopped'⟩
  -- The signal is still there, and the worker waits again, so it may leave.
  have hleave : q₂.step? (.leave kind) = some (q₂.setLane kind { worker := .gone }) := by
    rw [step?, leave?, hlane', if_pos ⟨hstopped'.trans hstopped, rfl⟩]
  have hgone : q₂.follow? [.leave kind] = some ([], q₂.setLane kind { worker := .gone }) :=
    follow_cons.mpr ⟨_, [], hleave, rfl, rfl⟩
  refine ⟨_, _, _, follow_append hfirst (follow_append hsecond hgone), ?_, ?_, ?_⟩
  · simp only [framesOf_append, hentered, hentered', List.append_nil, List.nil_append]
  · simp only [framesOf_append, haccepted, haccepted', List.append_nil]
  · rw [get_setLane_self]

/-- After the signal to stop a frame can still be put into the queue and be handed over, behind
    all those that were queued. -/
theorem follow_stop_put (hq : q.AllAccounted earlier) (hroom : 0 < q.capacity)
    {unit : AccessUnit} (hunit : unit.trackType = kind)
    (hworker : (q.lanes.get kind).worker ≠ .gone) :
    ∃ moves passages q', q.follow? (.stop :: moves) = some (passages, q')
      ∧ framesEntered kind passages = (q.lanes.get kind).queue ++ [unit]
      ∧ framesAccepted kind passages = [unit] := by
  have hkind : ∀ unit ∈ (q.lanes.get kind).queue, unit.trackType = kind := fun unit hunit =>
    hq.routed kind unit (List.mem_append_left _ hunit)
  rcases follow_stop hworker with ⟨waits, first, q₁, hfirst, hentered, haccepted, hlane, -⟩
  rcases follow_process hlane hkind (Nat.le_refl _) with
    ⟨second, q₂, hsecond, hentered', haccepted', hlane', -⟩
  rw [List.drop_length] at hlane'
  rw [List.take_length] at hentered'
  -- With all queued frames processed there is room for this one.
  rcases follow_accounted hfirst hq with ⟨hcapacity, hq₁⟩
  rcases follow_accounted hsecond hq₁ with ⟨hcapacity', -⟩
  subst hunit
  let queued := q₂.setLane unit.trackType ⟨[unit], .idle⟩
  have hput : q₂.step? (.put unit) = some queued := by
    have hroom : (0 : Nat) < q₂.capacity := by rw [hcapacity', hcapacity]; exact hroom
    simp only [step?, put?, hlane']
    rw [if_pos ⟨Worker.noConfusion, hroom⟩]
    rfl
  have hreceive : queued.step? (.receive unit.trackType)
      = some (queued.setLane unit.trackType ⟨[], .busy unit⟩) := by
    simp only [step?, receive?, queued, get_setLane_self]
    rfl
  have hpassages : queued.passages (.ok ()) (.receive unit.trackType) = [.entered unit] := by
    simp only [passages, queued, get_setLane_self]
    rfl
  have hthird : q₂.follow? [.put unit, .receive unit.trackType]
      = some ([.accepted unit, .entered unit], queued.setLane unit.trackType ⟨[], .busy unit⟩) :=
    follow_cons.mpr ⟨queued, [.entered unit], hput, follow_cons.mpr ⟨_, [], hreceive, rfl,
      by rw [hpassages]; rfl⟩, rfl⟩
  refine ⟨_, _, _, follow_append hfirst (follow_append hsecond hthird), ?_, ?_⟩
  · have hentered'' : framesEntered unit.trackType [.accepted unit, .entered unit] = [unit] :=
      framesEntered_entered rfl
    simp only [framesOf_append, hentered, hentered', hentered'', List.nil_append]
  · have hkinds : ∀ passage ∈ [Passage.accepted unit, .entered unit],
        passage.unit.trackType = unit.trackType := by simp [Passage.unit]
    have haccepted'' : framesAccepted unit.trackType [.accepted unit, .entered unit] = [unit] := by
      rw [framesAccepted, framesOf_of_kind hkinds, if_pos rfl]
      rfl
    simp only [framesOf_append, haccepted, haccepted', haccepted'', List.nil_append]

end Queues

namespace TranscodingTask

variable {b : Backend} {σ : Type}

/-- What is handed over after the signal to stop. Take any schedule of a task, with any
    transcoder, engine and sink, and let the signal be given after it. The frames of a kind
    that are handed over from then on are how the frames begin that were queued at that
    moment and that are accepted later. There are as many as the worker receives, so none if
    it follows the signal instead, and none if it had left before. But if it had not left,
    any number of the queued frames can be handed over before it does, and so can any frame
    that is accepted later. -/
theorem run_after_stop (e : Engine b σ) (sink : Sink σ) (transcoder : Transcoder b)
    (capacity : Nat) (before : List Queues.Move) (w w' : σ) {passages : List Passage}
    {reached : TranscodingTask b}
    (h : ((ofTranscoder transcoder capacity).run e sink before w).value = some (passages, reached))
    (kind : TrackType) :
    let lane := reached.queues.lanes.get kind
    (∀ after later last,
      (reached.run e sink (.stop :: after) w').value = some (later, last) →
        framesEntered kind later <+: lane.queue ++ framesAccepted kind later
          ∧ (framesEntered kind later).length = after.count (.receive kind)
          ∧ (lane.worker = .gone → framesEntered kind later = []))
    ∧ (lane.worker ≠ .gone →
      (∀ n ≤ lane.queue.length, ∃ after later last,
        (reached.run e sink (.stop :: after) w').value = some (later, last)
          ∧ framesEntered kind later = lane.queue.take n
          ∧ framesAccepted kind later = []
          ∧ (last.queues.lanes.get kind).worker = .gone)
      ∧ ∀ unit, unit.trackType = kind → ∃ after later last,
        (reached.run e sink (.stop :: after) w').value = some (later, last)
          ∧ framesEntered kind later = lane.queue ++ [unit]
          ∧ framesAccepted kind later = [unit]) := by
  intro lane
  have hbefore : (Queues.ofCapacity capacity).follow? before
      = some (passages.map Passage.plain, reached.queues) := follow_of_run h
  rcases Queues.follow_accounted hbefore (Queues.ofCapacity_accounted capacity) with
    ⟨hcapacity, hreached⟩
  rw [List.nil_append] at hreached
  refine ⟨fun after later last hlast => ?_, fun hworker => ⟨fun n hn => ?_, fun unit hunit => ?_⟩⟩
  · have hafter := follow_of_run hlast
    have hlength := Queues.length_entered hafter hreached kind
    rcases Queues.follow_accounted hafter hreached with ⟨-, hlast⟩
    have hgone : lane.worker = .gone → _ := Queues.follow_gone hafter hreached
    rw [framesEntered_plain] at hlength hgone
    -- The account at the signal and the one at the end are compared.
    have hlane := hreached kind
    have hordered := (hlast kind).ordered
    simp only [framesOf_append, framesAccepted_plain, framesEntered_plain] at hlane hordered
    refine ⟨?_, ?_, hgone⟩
    · by_cases hworker : lane.worker = .gone
      · -- The queue is lost with the worker, and nothing is handed over any more.
        rw [hgone hworker]
        exact List.nil_prefix
      · -- What was accepted before the signal was handed over before it, or is queued.
        rw [← hlane.complete hworker, List.append_assoc, List.append_assoc,
          List.prefix_append_right_inj] at hordered
        exact (List.prefix_append _ _).trans hordered
    · rw [hlength]
      rfl
  · rcases Queues.follow_stop_leave hreached hworker hn with
      ⟨after, passages', q, hfollow, hentered, haccepted, hgone⟩
    rcases run_of_follow e sink hfollow w' with ⟨later, last, hrun, rfl, rfl⟩
    rw [framesEntered_plain] at hentered
    rw [framesAccepted_plain] at haccepted
    exact ⟨after, later, last, hrun, hentered, haccepted, hgone⟩
  · have hroom : 0 < reached.queues.capacity := by
      rw [hcapacity]
      exact Nat.le_max_right capacity 1
    rcases Queues.follow_stop_put hreached hroom hunit hworker with
      ⟨after, passages', q, hfollow, hentered, haccepted⟩
    rcases run_of_follow e sink hfollow w' with ⟨later, last, hrun, rfl, rfl⟩
    rw [framesEntered_plain] at hentered
    rw [framesAccepted_plain] at haccepted
    exact ⟨after, later, last, hrun, hentered, haccepted⟩

/-- Two frames of sound are queued and the worker waits when the signal is given. The first
    frame can still be handed over, and the second is discarded. -/
theorem run_after_stop_one_of_two :
    let transcoder : Transcoder Loopback.backend :=
      { config := .default, usable := rfl, lanes := ⟨none, none⟩ }
    let e := Loopback.engine {}
    let first : AccessUnit := ⟨.g711a, 0, 0, [1]⟩
    let second : AccessUnit := ⟨.g711a, 20, 20, [2]⟩
    ∃ passages reached,
      ((ofTranscoder transcoder 2).run e .noting [.start, .put first, .put second] {}).value
          = some (passages, reached)
        ∧ ∃ after later last,
          (reached.run e .noting (.stop :: after) {}).value = some (later, last)
            ∧ framesEntered .audio later = [first]
            ∧ (last.queues.lanes.get .audio).worker = .gone := by
  intro transcoder e first second
  have hqueues : ((ofTranscoder transcoder 2).run e .noting [.start, .put first, .put second]
      {}).value.map (fun r => r.2.queues.lanes.audio) = some ⟨[first, second], .idle⟩ := by
    revert transcoder e first second
    cbv
  rcases Option.map_eq_some_iff.mp hqueues with ⟨⟨passages, reached⟩, hrun, hlane⟩
  have hlane : reached.queues.lanes.get .audio = ⟨[first, second], .idle⟩ := hlane
  rcases run_after_stop e .noting transcoder 2 _ {} {} hrun .audio with ⟨-, htight⟩
  simp only [hlane] at htight
  -- One of the two frames is asked for.
  rcases (htight Worker.noConfusion).1 1 (by decide) with
    ⟨after, later, last, hlast, hentered, -, hgone⟩
  exact ⟨passages, reached, hrun, after, later, last, hlast, hentered, hgone⟩

/-- A frame that is in the queue when the signal is given, and that the sink gets for all
    that: the worker waits, or is only started afterwards. -/
theorem stop_hands_over_queued_frame :
    let transcoder : Transcoder Loopback.backend :=
      { config := .default, usable := rfl, lanes := ⟨none, none⟩ }
    let e := Loopback.engine {}
    let task := ofTranscoder transcoder 1
    let unit : AccessUnit := ⟨.g711a, 0, 0, [1]⟩
    let queued (moves : List Queues.Move) :=
      (task.queues.follow? moves).map fun (_, q) => (q.stopped, q.lanes.audio.queue)
    let followed (moves : List Queues.Move) :=
      task.run e.onSecond Sink.noting.observed moves ([], {})
    queued [.start, .put unit, .stop] = some (true, [unit])
      ∧ (followed [.start, .put unit, .stop, .receive .audio]).value.map Prod.fst
        = some [.accepted unit, .entered unit]
      ∧ (followed [.start, .put unit, .stop, .receive .audio, .finish .audio]).world.1
        = [.inputFrame unit (.ok ())]
      ∧ queued [.put unit, .stop] = some (true, [unit])
      ∧ (followed [.put unit, .stop, .start, .receive .audio, .finish .audio]).world.1
        = [.inputFrame unit (.ok ())] := by
  cbv

end TranscodingTask

end Recode
