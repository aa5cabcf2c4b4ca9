import Tutor.Fault.Basic

namespace Tutor

/-!
# Step specifications

A mapper lists the steps of a task. An entry is the name of a step, or an object with exactly a type
and a value.

* `normalizeStep` brings an entry to the form of an object;
* `StepKind` lists the steps there are;
* `Step.ofJson` reads an entry.
-/

/-- The steps there are. -/
inductive StepKind
  | input
  | regex
  | shell
  | shellCustom
  | waitMessage
  | wrappedOutput
  | checkEvents
  deriving DecidableEq, Repr

/-- The step of a name. -/
def StepKind.ofName? : String → Option StepKind
  | "input" => some .input
  | "regex" => some .regex
  | "shell" => some .shell
  | "shell_custom" => some .shellCustom
  | "wait_message" => some .waitMessage
  | "wrapped_output" => some .wrappedOutput
  | "check_external_events" => some .checkEvents
  | _ => none

/-- A step with the value it was given. -/
structure Step where
  kind : StepKind
  value : Json
  deriving Repr

/-- The keys are `type` and `value` and no others. -/
def hasStepKeys (members : List (String × Json)) : Bool :=
  Table.has members "type" && Table.has members "value" &&
    members.all fun m => m.1 == "type" || m.1 == "value"

/-- An entry as an object with a type and a value. -/
def normalizeStep (spec : Json) : Except Fault Json :=
  match spec with
  | .str kind => .ok (.obj [("type", .str kind), ("value", .null)])
  | .obj members =>
    if !hasStepKeys members then .error (.stepKeys spec)
    else
      match spec.getD "type" .null with
      | .str _ => .ok spec
      | _ => .error (.stepKind spec)
  | _ => .error (.stepShape spec)

/-- Read an entry. -/
def Step.ofJson (spec : Json) : Except Fault Step := do
  let normal ← normalizeStep spec
  let name := (normal.getD "type" .null).text
  match StepKind.ofName? name with
  | some kind => .ok ⟨kind, normal.getD "value" .null⟩
  | none => .error (.unknownStep name spec)

end Tutor
