import Twilight.Alarm.Queue

namespace Twilight

/-!
# The alarm worker

* `Worker` — a queue of alarms, a clock, and the firings so far.
* `WorkerStep` — what a client does between firings, and what a callback does while it runs.
* `Worker.drain` — fire batch after batch, until nothing is due. A batch is everything due at one
  reading of the clock; its callbacks run one after the other once it is taken out, so none of them
  can cancel another one of the same batch.
-/

open Time

/-- When an alarm shall fire: at an instant in nanoseconds, or some seconds from now. -/
inductive ArmTime where
  | at (nanos : Int)
  | within (seconds : Int)

/-- An action on the worker's alarms or clock. -/
inductive WorkerStep where
  | arm (label : String) (time : ArmTime) (interval : Option Int) (callback : List WorkerStep)
  | cancel (label : String)
  | advance (seconds : Int)
  | set (nanos : Int)

/-- What an alarm of the worker does when it fires. -/
structure Job where
  label : String
  callback : List WorkerStep

/-- The alarm service on a clock that is set by hand. -/
structure Worker where
  zone : Zone
  clock : Moment
  queue : AlarmQueue Job := {}
  /-- The number armed last under each label. -/
  labels : Table String AlarmId := {}
  /-- Label and clock second of every firing, the latest first. -/
  fired : List (String × Int) := []

namespace Worker

/-- Carry out a step; a label without an alarm stands for a number never given out. -/
def perform (w : Worker) : WorkerStep → Worker
  | .arm label time interval callback =>
    let trigger := match time with
      | .at nanos => Moment.ofNanos w.zone nanos
      | .within seconds => w.clock.after w.zone (seconds * nanosPerSecond)
    let alarm := Alarm.once trigger (Job.mk label callback)
    let alarm := match interval with
      | none => alarm
      | some seconds => alarm.withInterval (seconds * nanosPerSecond)
    let (id, queue) := w.queue.arm alarm
    { w with queue := queue, labels := w.labels.insert label id }
  | .cancel label =>
    match w.labels.get? label with
    | some id => { w with queue := w.queue.cancel id }
    | none => w
  | .advance seconds => { w with clock := w.clock.after w.zone (seconds * nanosPerSecond) }
  | .set nanos => { w with clock := Moment.ofNanos w.zone nanos }

/-- Run the callback of an alarm that was taken out. -/
def fire (w : Worker) (job : Job) : Worker :=
  job.callback.foldl perform { w with fired := (job.label, w.clock.seconds) :: w.fired }

/-- Take out what is due and run the callbacks; nothing if nothing is due. -/
def batch? (w : Worker) : Option Worker :=
  let (due, queue) := w.queue.takeDue w.zone w.clock
  if due.isEmpty then none
  else some (due.foldl (fun w p => w.fire p.2.action) { w with queue := queue })

/-- Fire batches until nothing is due, at most `limit` of them. -/
def drain : (limit : Nat) → Worker → Worker
  | 0, w => w
  | limit + 1, w =>
    match w.batch? with
    | none => w
    | some w => drain limit w

/-- How many batches one step may set off: a repeating alarm whose callback moves the clock past
    its next trigger would otherwise fire for ever. -/
def batchLimit : Nat := 100000

/-- One step of a client, with everything that it makes due. Answers the firings in order. -/
def step (w : Worker) (s : WorkerStep) : List (String × Int) × Worker :=
  let w := drain batchLimit ({ w with fired := [] }.perform s)
  (w.fired.reverse, w)

end Worker

end Twilight
