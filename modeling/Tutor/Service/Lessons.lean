import Tutor.Course.Loading
import Tutor.Effects.Outcome
import Tutor.Settings.Store
import Tutor.Steps.Pipeline

namespace Tutor.Service

/-!
# Lessons as a service

What a client can ask for.

* `describe` tells the prompt of a task and starts to wait for its events;
* `attempt` runs an input through a task (`evaluate`) and applies the effect of the result
  (`conclude`);
* `notify` passes an event on;
* `unlockedLessons` and `knownLessons` list what a client may see.
-/

/-- Inputs of this kind are events. -/
def eventsKind : String := "external_events"

/-- The prompt of a task and the JSON text of its input. A task that waits for events is armed. -/
def describe (b : Boundary) (key : TaskKey) : Act (String × String) := do
  let t ← Catalog.task key
  if t.input.kind == eventsKind then
    let events ← Tracker.armTask key (.obj t.input.settings)
    b.announce events
  return (t.prompt, t.input.toJson.write)

/-- Store a list of names under a key if it differs from what was there. -/
def storeChanged (key : String) (before after : List String) : Act Unit := do
  if after != before then Settings.setStrings key after

/-- Run an input through the steps of a task. -/
def evaluate (key : TaskKey) (t : Task) (input : String) : Act Progress := do
  let steps ← compilePipeline key t.mapper
  runPipeline key steps input

/-- Apply the effect of a result: the JSON text of the responses, and the next task. A task that is
left is disarmed. -/
def conclude (key : TaskKey) (t : Task) (result : Progress) : Act (String × String) := do
  let unlocked ← Settings.getStrings Settings.unlockedKey
  let known ← Settings.getStrings Settings.knownKey
  let outcome ← resolveEffect key result.text t.effects result.auxiliaries unlocked known
  storeChanged Settings.unlockedKey unlocked outcome.unlocked
  storeChanged Settings.knownKey known outcome.known
  if outcome.moveTo != key.2 then
    let _ ← Tracker.disarmTask key
  return ((Json.arr outcome.responses).write, outcome.moveTo)

/-- Run an input through a task: the JSON text of the responses, and the next task. -/
def attempt (key : TaskKey) (input : String) : Act (String × String) := do
  let t ← Catalog.task key
  conclude key t (← evaluate key t input)

/-- Record an event. -/
def notify (b : Boundary) (event : String) : Act Unit := do
  let _ ← Tracker.notify b event

/-! ### Lists of lessons -/

/-- The lessons that are always unlocked. -/
def alwaysUnlocked : List String := ["showmehow", "intro"]

/-- What a list shows of a lesson. -/
structure Summary where
  name : String
  description : String
  entry : String
  deriving DecidableEq, Repr

/-- What a list shows of a lesson. -/
def Summary.of (l : Lesson) : Summary :=
  ⟨l.name, l.description, l.entry⟩

/-- Look names up. -/
def lookupAll : List String → Act (List (Option Lesson))
  | [] => return []
  | name :: rest => do
    let l ← Catalog.lookup name
    return l :: (← lookupAll rest)

/-- The lessons of the given names that a client may see. -/
def summaries (names : List String) (client : String) : Act (List Summary) := do
  let found ← lookupAll names
  return found.filterMap fun
    | some l => if l.availableTo.contains client then some (.of l) else none
    | none => none

/-- The unlocked lessons that a client may see. -/
def unlockedLessons (client : String) : Act (List Summary) := do
  let stored ← Settings.getStrings Settings.unlockedKey
  summaries (addUnique stored alwaysUnlocked) client

/-- The completed lessons that a client may see. -/
def knownLessons (client : String) : Act (List Summary) := do
  summaries (← Settings.getStrings Settings.knownKey) client

end Tutor.Service
