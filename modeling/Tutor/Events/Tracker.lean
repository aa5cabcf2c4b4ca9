import Tutor.Events.Output

namespace Tutor

/-!
# The event tracker

The tracker holds the outputs of every task that waits for events: the armed tasks.

* `Tracker.arm` and `Tracker.disarm` start and stop waiting;
* `Tracker.mark` records an event for one task, `Tracker.resolve` chooses the output that wins.
-/

/-- A lesson and one of its tasks. -/
abbrev TaskKey := String × String

/-- The armed tasks, in the order in which they were armed. -/
structure Tracker where
  pending : Table TaskKey Pending
  /-- No task is armed twice. -/
  distinct : pending.keys.Nodup
  deriving DecidableEq, Repr

namespace Tracker

/-- Nothing is armed. -/
def empty : Tracker := ⟨[], List.nodup_nil⟩

/-- The outputs of an armed task. -/
def state? (t : Tracker) (key : TaskKey) : Option Pending :=
  t.pending.get? key

/-- The task is armed. -/
def isArmed (t : Tracker) (key : TaskKey) : Bool :=
  t.pending.has key

/-- The armed tasks. -/
def armedPairs (t : Tracker) : List TaskKey :=
  t.pending.keys

/-- Arm a task: its former outputs, if any, are replaced. -/
def arm (t : Tracker) (key : TaskKey) (p : Pending) : Tracker :=
  ⟨t.pending.put key p, Table.nodup_keys_put t.distinct key p⟩

/-- Disarm a task. -/
def disarm (t : Tracker) (key : TaskKey) : Tracker :=
  ⟨t.pending.erase key, Table.nodup_keys_erase t.distinct key⟩

/-- Record an event for an armed task. -/
def mark (t : Tracker) (key : TaskKey) (event : String) : Tracker :=
  match t.state? key with
  | some p => t.arm key (p.mark event)
  | none => t

/-- The output of a task that wins; a task that is not armed has none. -/
def resolve (t : Tracker) (key : TaskKey) : Except Fault (String × Output) :=
  match t.state? key with
  | some p => p.winner key.1 key.2
  | none => .error (.noOutput key.1 key.2 [])

end Tracker

end Tutor
