import Tutor.Json.Writer

namespace Tutor

/-!
# Kinds of faults

Faults of lesson content and of requests fall into kinds, and adapters tell them apart by the name
of the kind. Where a message is built from a few parts, the wording stands here.
-/

/-- The kinds of faults. -/
inductive Kind
  | internalError
  | taskNotFound
  | invalidTaskSpec
  | invalidPipelineSpec
  | unknownStepType
  | invalidStepConfig
  | noOutputSatisfied
  | ambiguousOutputs
  | unknownResultCode
  | invalidEffectSpec
  | unknownSideEffect
  | processFailed
  | invalidClueType
  deriving DecidableEq, Repr

/-- The name of a kind. -/
def Kind.name : Kind → String
  | .internalError => "internal-error"
  | .taskNotFound => "task-not-found"
  | .invalidTaskSpec => "invalid-task-spec"
  | .invalidPipelineSpec => "invalid-pipeline-spec"
  | .unknownStepType => "unknown-step-type"
  | .invalidStepConfig => "invalid-step-config"
  | .noOutputSatisfied => "no-output-satisfied"
  | .ambiguousOutputs => "ambiguous-outputs"
  | .unknownResultCode => "unknown-result-code"
  | .invalidEffectSpec => "invalid-effect-spec"
  | .unknownSideEffect => "unknown-side-effect"
  | .processFailed => "process-failed"
  | .invalidClueType => "invalid-clue-type"

namespace Wording

/-- Names with commas between them. -/
def listed (names : List String) : String :=
  ", ".intercalate names

/-- What stands for no events. -/
def noEvents : String := "<none>"

/-- A lesson or task that is not there. -/
def taskNotFound (lesson task : String) : String :=
  s!"Either the lesson '{lesson}' or task id '{task}' was invalid."

/-- A complaint about a mapper entry. -/
def stepSpec (complaint : String) (spec : Json) : String :=
  s!"{complaint} (spec: {spec.writeSorted})"

/-- No output is satisfied. -/
def noOutput (lesson task events : String) : String :=
  s!"No outputs of {lesson}/{task} were satisfied by events: {events}. " ++
    "At any given point an output must be satisfiable even if no events occur."

/-- More than one output, or none, is left. -/
def ambiguous (lesson task outputs events : String) : String :=
  s!"Outputs ({outputs}) of {lesson}/{task} were all matched when the following " ++
    s!"events were satisfied: {if events.isEmpty then noEvents else events}. " ++
    "Only one output should be satisfiable. Ensure every output that can be satisfied " ++
    "together with another lists it in its subsumes field."

/-- A result without an effect. -/
def unknownResult (result known : String) : String :=
  s!"Don't know how to handle result '{result}'; effects are defined for: {known}"

end Wording

end Tutor
