import Tutor.World

namespace Tutor.Tracker

/-!
# Waiting for events

The tracker as operations on the world.

* `armTask` and `disarmTask` start and stop waiting and log it;
* `markTask` records an event for one task, `notifyTask` signals the task if that is asked for;
* `notify` records an event and signals the tasks whose winning output asks for it.
-/

/-- Change the tracker. -/
def update (t : Tracker) : Act Unit :=
  modify fun w => { w with tracker := t }

/-- Arm a task for the outputs that a value describes, and return the events it waits for. -/
def armTask (key : TaskKey) (outputs : Json) : Act (List String) := do
  let p ← Act.ofFault (Pending.ofJson outputs)
  update ((← get).tracker.arm key p)
  Act.log .debug .events
    s!"Armed {key.1}/{key.2} for events {Json.literalStrings p.trackedEvents}"
  return p.trackedEvents

/-- Disarm a task, and return whether it was armed. -/
def disarmTask (key : TaskKey) : Act Bool := do
  let t := (← get).tracker
  if t.isArmed key then
    update (t.disarm key)
    Act.log .debug .events s!"Disarmed {key.1}/{key.2}"
    return true
  else return false

/-- The output of a task that wins. -/
def resolveTask (key : TaskKey) : Act (String × Output) := do
  Act.ofFault ((← get).tracker.resolve key)

/-- Record an event for one task, and return whether its winning output asks for a signal. A task
that has been disarmed in the meantime is left alone. -/
def markTask (event : String) (key : TaskKey) : Act Bool := do
  let t := (← get).tracker
  if !t.isArmed key then return false
  let t := t.mark key event
  update t
  match t.resolve key with
  | .ok (_, output) => return output.notify
  | .error (.noOutput ..) => return false
  | .error f =>
    Act.log .error .events s!"Cannot resolve events for {key.1}/{key.2}: {f.message}"
    return false

/-- Record an event for one task, and return whether the task was signalled. -/
def notifyTask (b : Boundary) (event : String) (key : TaskKey) : Act Bool := do
  let due ← markTask event key
  if due then b.signal key
  return due

/-- Record an event for a list of tasks, and return those that were signalled. -/
def notifyAll (b : Boundary) (event : String) : List TaskKey → Act (List TaskKey)
  | [] => return []
  | key :: rest => do
    let signalled ← notifyTask b event key
    let others ← notifyAll b event rest
    return if signalled then key :: others else others

/-- Record an event for the tasks that are armed now, and return those that were signalled. -/
def notify (b : Boundary) (event : String) : Act (List TaskKey) := do
  notifyAll b event (← get).tracker.armedPairs

end Tutor.Tracker
