import Tutor.Failure

namespace Tutor

/-!
# Messages from loose values

An adapter may ask for the message of a kind of fault with any values in the places of its parts.

* `Json.elements` are the values that a value holds;
* `joined` lists them, if all are strings;
* `Kind.compose` is the message.
-/

/-- The values that a value holds: the items of an array, the keys of an object, the characters of
a string. -/
def Json.elements : Json → Except Failure (List Json)
  | .arr items => .ok items
  | .obj members => .ok (members.map fun m => .str m.1)
  | .str s => .ok (s.toList.map fun c => .str c.toString)
  | _ => .error .wrongKind

/-- The strings among which commas stand. -/
def joined (j : Json) : Except Failure String := do
  let names ← (← j.elements).mapM fun
    | .str s => .ok s
    | _ => .error .wrongKind
  .ok (Wording.listed names)

/-- The message of a kind of fault made of given parts. The kinds without parts of their own take
any number: none gives an empty message, one its text, more a list. -/
def Kind.compose (k : Kind) (parts : List Json) : Except Failure String :=
  match k, parts with
  | .taskNotFound, [lesson, task] => .ok (Wording.taskNotFound lesson.text task.text)
  | .invalidPipelineSpec, [complaint, spec] => .ok (Wording.stepSpec complaint.text spec)
  | .unknownStepType, [complaint, spec] => .ok (Wording.stepSpec complaint.text spec)
  | .noOutputSatisfied, [lesson, task, events] => do
    let listed ← if events.isTruthy then joined events else .ok Wording.noEvents
    .ok (Wording.noOutput lesson.text task.text listed)
  | .ambiguousOutputs, [lesson, task, outputs, events] => do
    let os ← joined outputs
    let es ← joined events
    .ok (Wording.ambiguous lesson.text task.text os es)
  | .unknownResultCode, [result, known] => do
    .ok (Wording.unknownResult result.text (← joined known))
  | .taskNotFound, _ | .invalidPipelineSpec, _ | .unknownStepType, _ | .noOutputSatisfied, _
  | .ambiguousOutputs, _ | .unknownResultCode, _ => .error .wrongKind
  | _, [] => .ok ""
  | _, [part] => .ok part.text
  | _, parts => .ok s!"({Wording.listed (parts.map Json.literal)})"

end Tutor
