import Tutor.Distinct
import Tutor.Fault.Basic

namespace Tutor

/-!
# Outputs of events

A task that waits for events has outputs: an output is satisfied once all its events have fired, and
may subsume other outputs.

* `Output` is the progress of one output, `Pending` that of all outputs of a task;
* `Pending.ofJson` reads the outputs of a task, none of them fired;
* `Pending.mark` records an event;
* `Pending.winner` is the satisfied output that subsumes all others.
-/

/-- One output: which of its events have fired, and what it subsumes. -/
structure Output where
  events : Table String Bool
  subsumes : List String
  /-- Somebody wants to hear when this output wins. -/
  notify : Bool
  deriving DecidableEq, Repr

/-- All events of the output have fired. -/
def Output.satisfied (o : Output) : Bool :=
  o.events.all (·.2)

/-- Record an event, if the output waits for it. -/
def Output.mark (o : Output) (event : String) : Output :=
  { o with events := o.events.map fun e => (e.1, e.2 || e.1 == event) }

/-- The outputs of a task. -/
structure Pending where
  outputs : Table String Output
  /-- No two outputs share a name. -/
  distinct : outputs.keys.Nodup
  deriving DecidableEq, Repr

/-! ### Reading -/

/-- A list under a key that may be absent. -/
def listUnder (raw : Json) (key : String) : Option (List Json) :=
  match raw.getD key (.arr []) with
  | .arr items => some items
  | _ => none

/-- Read one output. -/
def Output.ofJson (name : String) (raw : Json) : Except Fault Output :=
  match raw with
  | .obj _ =>
    match listUnder raw "events", listUnder raw "subsumes" with
    | some events, some subsumes =>
      .ok
        { events := Table.ofPairs (events.map fun e => (e.text, false))
          subsumes := addUnique [] (subsumes.map Json.text)
          notify := (raw.getD "notify" (.bool false)).isTruthy }
    | _, _ => .error (.outputLists name)
  | other => .error (.outputShape name other)

/-- Read outputs in order. -/
def outputsOfMembers : List (String × Json) → Except Fault (List (String × Output))
  | [] => .ok []
  | (name, raw) :: r => do
    let output ← Output.ofJson name raw
    let rest ← outputsOfMembers r
    .ok ((name, output) :: rest)

/-- The outputs of a list; the last one of a name counts. -/
def Pending.ofOutputs (outputs : List (String × Output)) : Pending :=
  ⟨Table.ofPairs outputs, Table.nodup_keys_ofPairs outputs⟩

/-- Read the outputs of a task. -/
def Pending.ofJson (raw : Json) : Except Fault Pending :=
  match raw with
  | .obj members => (outputsOfMembers members).map Pending.ofOutputs
  | other => .error (.outputsShape other)

/-! ### Progress -/

namespace Pending

/-- The events the outputs wait for, each once. -/
def trackedEvents (p : Pending) : List String :=
  addUnique [] (p.outputs.flatMap fun o => o.2.events.keys)

/-- The events that have fired, each once. -/
def firedEvents (p : Pending) : List String :=
  addUnique [] (p.outputs.flatMap fun o => (o.2.events.filter (·.2)).map (·.1))

/-- What each output subsumes. -/
def subsumption (p : Pending) : Table String (List String) :=
  p.outputs.mapValues (·.subsumes)

/-- Change all outputs. -/
def mapOutputs (p : Pending) (f : Output → Output) : Pending :=
  ⟨p.outputs.mapValues f, by rw [Table.keys_mapValues]; exact p.distinct⟩

/-- Record an event in all outputs that wait for it. -/
def mark (p : Pending) (event : String) : Pending :=
  p.mapOutputs (·.mark event)

/-- The names of the satisfied outputs. -/
def satisfied (p : Pending) : List String :=
  (p.outputs.filter (·.2.satisfied)).map (·.1)

end Pending

/-! ### Choice -/

/-- An output subsumes another; one that is not in the table subsumes nothing. -/
def subsumesIn (subsumes : Table String (List String)) (name other : String) : Bool :=
  ((subsumes.get? name).getD []).contains other

/-- The satisfied outputs that subsume every other satisfied output. -/
def survivors (satisfied : List String) (subsumes : Table String (List String)) : List String :=
  satisfied.filter fun name =>
    satisfied.all fun other => other == name || subsumesIn subsumes name other

/-- The one satisfied output that subsumes all others, for the task named in faults. -/
def Pending.winner (p : Pending) (lesson task : String) : Except Fault (String × Output) :=
  match p.satisfied with
  | [] => .error (.noOutput lesson task p.firedEvents)
  | satisfied =>
    match survivors satisfied p.subsumption with
    | [name] =>
      match p.outputs.get? name with
      | some output => .ok (name, output)
      | none => .error (.noOutput lesson task p.firedEvents)
    | [] => .error (.ambiguous lesson task satisfied p.firedEvents)
    | names => .error (.ambiguous lesson task names p.firedEvents)

end Tutor
