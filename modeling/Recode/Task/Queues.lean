import Recode.Transcoder.Basic

/-!
# Queues and workers

A transcoder may be run behind two queues, one for each kind of track, each with a
worker that hands the frames to the transcoder one at a time. The two lanes do not
wait for each other.

What happens is a sequence of moves in an order that nobody prescribes: producers
put frames into queues, workers receive and finish them, and at some moment
somebody stops it all. A move is possible or not depending on the lane it
concerns. Stopping is a mere signal. An idle worker that has been signalled may
leave, but it may as well receive another frame if there is one.

A queue is open until its worker is gone. Before the workers are started frames can
be queued already, as far as there is room.

## Main definitions

* `Worker`: What a worker is doing.
* `QueueLane`: A queue and its worker.
* `Queues`: Both lanes and the signal to stop.
* `Queues.Move`, `Queues.step?`: What may happen next.
* `Queues.answer`: What a producer is told about a frame.

## Theorems

* `Queues.length_of_receive`: Receiving a frame shortens its queue.
* `Queues.queue_of_finish`: Finishing one leaves the queue as it is.
-/

namespace Recode

/-- What a worker is doing. -/
inductive Worker where
  /-- It has not been started. -/
  | absent
  /-- It waits for a frame or the signal to stop. -/
  | idle
  /-- It has handed a frame to the transcoder and waits for the outcome. -/
  | busy (unit : AccessUnit)
  /-- It has left, or died. -/
  | gone
deriving DecidableEq, Repr

/-- A queue and its worker. -/
structure QueueLane where
  /-- The frames in the queue, oldest first. -/
  queue : List AccessUnit := []
  worker : Worker := .absent
deriving DecidableEq, Repr

/-- Starts the worker of a lane that has none yet. -/
def QueueLane.start (lane : QueueLane) : QueueLane :=
  if lane.worker = .absent then { lane with worker := .idle } else lane

/-- Both lanes and the signal to stop. -/
structure Queues where
  /-- How many frames each queue has room for. -/
  capacity : Nat
  /-- The signal to stop was given. -/
  stopped : Bool := false
  lanes : Lanes QueueLane := ⟨{}, {}⟩

namespace Queues

/-- Empty queues of the given capacity, which is one at least, without workers. -/
def ofCapacity (capacity : Nat) : Queues := { capacity := max capacity 1 }

/-- Something that may happen. -/
inductive Move where
  /-- A producer puts a frame into its queue. -/
  | put (unit : AccessUnit)
  /-- The workers are started. -/
  | start
  /-- A worker takes the oldest frame and hands it to the transcoder. -/
  | receive (kind : TrackType)
  /-- The transcoder is done with a worker's frame. -/
  | finish (kind : TrackType)
  /-- A worker dies of its frame. -/
  | die (kind : TrackType)
  /-- The signal to stop is given. -/
  | stop
  /-- A worker follows the signal. -/
  | leave (kind : TrackType)
deriving DecidableEq, Repr

/-- Changes a lane. -/
def setLane (q : Queues) (kind : TrackType) (lane : QueueLane) : Queues :=
  { q with lanes := q.lanes.set kind lane }

/-- Puts a frame into its queue, if that is open and has room. -/
def put? (q : Queues) (unit : AccessUnit) : Option Queues :=
  let lane := q.lanes.get unit.trackType
  if lane.worker ≠ .gone ∧ lane.queue.length < q.capacity then
    some (q.setLane unit.trackType { lane with queue := lane.queue ++ [unit] })
  else none

/-- Starts the workers; those started already go on. -/
def start (q : Queues) : Queues :=
  { q with lanes := ⟨q.lanes.audio.start, q.lanes.video.start⟩ }

/-- Lets an idle worker take the oldest frame of its queue. -/
def receive? (q : Queues) (kind : TrackType) : Option (AccessUnit × Queues) :=
  let lane := q.lanes.get kind
  match lane.worker, lane.queue with
  | .idle, unit :: rest => some (unit, q.setLane kind { queue := rest, worker := .busy unit })
  | _, _ => none

/-- Lets a worker go on after its frame. -/
def finish? (q : Queues) (kind : TrackType) : Option Queues :=
  let lane := q.lanes.get kind
  match lane.worker with
  | .busy _ => some (q.setLane kind { lane with worker := .idle })
  | _ => none

/-- Lets a worker die of its frame. What is in its queue is lost. -/
def die? (q : Queues) (kind : TrackType) : Option Queues :=
  match (q.lanes.get kind).worker with
  | .busy _ => some (q.setLane kind { worker := .gone })
  | _ => none

/-- Gives the signal to stop. -/
def stop (q : Queues) : Queues := { q with stopped := true }

/-- Lets an idle worker follow the signal to stop. What is in its queue is lost. -/
def leave? (q : Queues) (kind : TrackType) : Option Queues :=
  if q.stopped ∧ (q.lanes.get kind).worker = .idle then some (q.setLane kind { worker := .gone })
  else none

/-- Makes a move, if it is possible. -/
def step? (q : Queues) : Move → Option Queues
  | .put unit => q.put? unit
  | .start => some q.start
  | .receive kind => (q.receive? kind).map Prod.snd
  | .finish kind => q.finish? kind
  | .die kind => q.die? kind
  | .stop => some q.stop
  | .leave kind => q.leave? kind

/-- Why a frame is refused. -/
inductive Refusal where
  /-- The signal to stop was given. -/
  | stopped
  /-- The worker of the frame's kind is gone. -/
  | closed (unit : AccessUnit)
deriving DecidableEq, Repr

/-- A refusal in words. -/
def Refusal.message : Refusal → String
  | stopped => "transcode task stopped"
  | closed unit =>
    unit.trackType.name ++ " queue closed, frame " ++ unit.text ++ " dropped"

/-- What a producer is told about a frame. -/
inductive Admission where
  | queued (after : Queues)
  /-- There is no room, and the producer has to wait. -/
  | full
  | refused (reason : Refusal)

/-- What a producer is told about a frame: the signal to stop comes first, then a
    queue that is closed. -/
def answer (q : Queues) (unit : AccessUnit) : Admission :=
  if q.stopped then .refused .stopped
  else if (q.lanes.get unit.trackType).worker = .gone then .refused (.closed unit)
  else
    match q.put? unit with
    | some after => .queued after
    | none => .full

theorem length_of_receive {q after : Queues} {kind : TrackType} {unit : AccessUnit}
    (h : q.receive? kind = some (unit, after)) :
    (after.lanes.get kind).queue.length < (q.lanes.get kind).queue.length := by
  unfold receive? at h
  simp only at h
  split at h
  · next heq =>
    cases h
    simp [setLane, heq]
  · cases h

theorem queue_of_finish (q : Queues) (kind : TrackType) :
    (((q.finish? kind).getD q).lanes.get kind).queue = (q.lanes.get kind).queue := by
  unfold finish?
  simp only
  split
  · simp [setLane]
  · rfl

end Queues

end Recode
