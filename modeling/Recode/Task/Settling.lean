import Recode.Task.Queues

/-!
# Settling

A task is a transcoder behind its queues. It settles when its workers do all they
can and nobody interferes: they process what is queued, lane by lane, and then leave
if they have been told to. Since the lanes do not wait for each other, nothing is lost
by letting one go first.

A worker can die of a frame. Its lane is closed from then on, the other goes on, and
the transcoder is as it was.

## Main definitions

* `TranscodingTask`: A transcoder behind its queues.
* `TranscodingTask.settle`: Lets the workers do all they can.
* `TranscodingTask.send`, `TranscodingTask.start`, `TranscodingTask.stop`,
  `TranscodingTask.abort`: What can be done with it.
-/

namespace Recode

/-- A transcoder behind its queues. -/
structure TranscodingTask (b : Backend) where
  transcoder : Transcoder b
  queues : Queues
  /-- The workers were destroyed from outside; none can be started any more. -/
  aborted : Bool := false

namespace TranscodingTask

variable {b : Backend} {σ : Type}

/-- A task whose workers have not been started. -/
def ofTranscoder (transcoder : Transcoder b) (capacity : Nat) : TranscodingTask b :=
  { transcoder, queues := .ofCapacity capacity }

/-- Lets one worker process its queue. It dies of a frame that is `fatal`. -/
def settleLane (e : Engine b σ) (sink : Sink σ) (fatal : AccessUnit → Bool) (kind : TrackType)
    (t : TranscodingTask b) : Act σ (TranscodingTask b) :=
  match _received : t.queues.receive? kind with
  | none => return t
  | some (unit, queues) =>
    if fatal unit then return { t with queues := (queues.die? kind).getD queues }
    else do
      let (_, transcoder) ← t.transcoder.inputFrame e sink unit
      settleLane e sink fatal kind
        { t with transcoder, queues := (queues.finish? kind).getD queues }
termination_by (t.queues.lanes.get kind).queue.length
decreasing_by
  rw [Queues.queue_of_finish]
  exact Queues.length_of_receive ‹_›

/-- Lets an idle worker leave if it has been told to. -/
def leaveLane (kind : TrackType) (t : TranscodingTask b) : TranscodingTask b :=
  { t with queues := (t.queues.leave? kind).getD t.queues }

/-- Lets the workers do all they can. A worker that has been told to leave may do so at
    once or take another frame first; here it takes all there are. -/
def settle (e : Engine b σ) (sink : Sink σ) (fatal : AccessUnit → Bool) (t : TranscodingTask b) :
    Act σ (TranscodingTask b) := do
  let t ← t.settleLane e sink fatal .audio
  let t ← t.settleLane e sink fatal .video
  return (t.leaveLane .audio).leaveLane .video

/-- Sends a frame; it is queued if the answer says so. -/
def send (unit : AccessUnit) (t : TranscodingTask b) : Queues.Admission × TranscodingTask b :=
  match t.queues.answer unit with
  | .queued queues => (.queued queues, { t with queues })
  | other => (other, t)

/-- Starts the workers, unless they were destroyed. -/
def start (t : TranscodingTask b) : TranscodingTask b :=
  if t.aborted then t else { t with queues := t.queues.start }

/-- Gives the signal to stop. -/
def stop (t : TranscodingTask b) : TranscodingTask b := { t with queues := t.queues.stop }

/-- Closes a lane whose worker was started. -/
def abortLane (lane : QueueLane) : QueueLane :=
  if lane.worker = .absent then lane else { worker := .gone }

/-- Destroys the workers from outside. The queues of those that were started close
    with them. -/
def abort (t : TranscodingTask b) : TranscodingTask b :=
  { t with
    aborted := true
    queues :=
      { t.queues with
        lanes := ⟨abortLane t.queues.lanes.audio, abortLane t.queues.lanes.video⟩ } }

end TranscodingTask

end Recode
