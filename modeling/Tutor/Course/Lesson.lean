import Tutor.Json.Basic

namespace Tutor

/-!
# Lessons

A lesson has tasks for practice. A task says how its input is given, which steps map the input to a
result code, and what effect each code has.

* `InputSpec`, `Effect`, `Task` and `Lesson` are the parts of a lesson;
* `InputSpec.toJson` is how adapters see an input.

Steps, replies and side effects are kept as they were written: they are looked at when they are
used.
-/

/-- How a task expects its input. -/
structure InputSpec where
  kind : String
  settings : Table String Json
  deriving Repr

/-- An input as an object. -/
def InputSpec.toJson (i : InputSpec) : Json :=
  .obj [("type", .str i.kind), ("settings", .obj i.settings)]

/-- What one result code leads to. -/
structure Effect where
  reply : Json
  sideEffects : List Json
  completesLesson : Bool
  moveTo : Option String
  deriving Repr

/-- One exercise of a lesson. -/
structure Task where
  id : String
  prompt : String
  input : InputSpec
  mapper : List Json
  effects : Table String Effect
  deriving Repr

/-- A lesson with its tasks. -/
structure Lesson where
  name : String
  description : String
  /-- The task to start with. -/
  entry : String
  /-- The clients that may see the lesson. -/
  availableTo : List String
  practice : Table String Task
  deriving Repr

end Tutor
