import Tutor.Fault.Kind
import Tutor.Json.Literal
import Tutor.Pattern.Flaw

namespace Tutor

/-!
# Faults

What can be wrong with lesson content or with a request.

* `Fault` lists the causes;
* `Fault.kind` is the kind of a cause, `Fault.message` its wording.
-/

/-- A cause of failure that lies in lesson content or in a request. -/
inductive Fault
  | taskNotFound (lesson task : String)
  -- lesson documents
  | lessonShape (got : Json)
  | practiceShape (lesson : String)
  | taskShape (task : String) (got : Json)
  | mapperShape (task : String)
  | effectsShape (task : String)
  | inputKind (got : Json)
  | inputSettings (got : Json)
  | inputShape (got : Json)
  | effectShape (got : Json)
  | sideEffectsShape (got : Json)
  -- events
  | outputsShape (got : Json)
  | outputShape (output : String) (got : Json)
  | outputLists (output : String)
  | noOutput (lesson task : String) (events : List String)
  | ambiguous (lesson task : String) (outputs events : List String)
  -- steps
  | stepShape (spec : Json)
  | stepKeys (spec : Json)
  | stepKind (spec : Json)
  | unknownStep (kind : String) (spec : Json)
  | patternShape (got : Json)
  | badPattern (pattern : String) (why : Pattern.Fault)
  | shellSettings (got : Json)
  | shellEnvironment (got : Json)
  | shellCommand (settings : Json)
  | processFailed (code reason : String)
  -- effects
  | unknownResult (result : String) (known : List String)
  | replyShape (got : Json)
  | unlockNames (got : Json)
  | sideCommand (got : Json)
  | unknownSideEffect (kind sideEffect : Json)
  -- clues
  | unknownClue (kind : String)
  deriving Repr

/-- The kinds of clues there are. -/
def clueKinds : List String := ["text", "image-path"]

namespace Fault

/-- The kind of a fault. -/
def kind : Fault → Kind
  | .taskNotFound .. => .taskNotFound
  | .lessonShape _ | .practiceShape _ | .taskShape .. | .mapperShape _ | .effectsShape _
  | .inputKind _ | .inputSettings _ | .inputShape _
  | .outputsShape _ | .outputShape .. | .outputLists _ => .invalidTaskSpec
  | .noOutput .. => .noOutputSatisfied
  | .ambiguous .. => .ambiguousOutputs
  | .stepShape _ | .stepKeys _ | .stepKind _ => .invalidPipelineSpec
  | .unknownStep .. => .unknownStepType
  | .patternShape _ | .badPattern .. | .shellSettings _ | .shellEnvironment _
  | .shellCommand _ => .invalidStepConfig
  | .processFailed .. => .processFailed
  | .unknownResult .. => .unknownResultCode
  | .effectShape _ | .sideEffectsShape _ | .replyShape _ | .unlockNames _
  | .sideCommand _ => .invalidEffectSpec
  | .unknownSideEffect .. => .unknownSideEffect
  | .unknownClue _ => .invalidClueType

/-- The wording of a fault. -/
def message : Fault → String
  | .taskNotFound l t => Wording.taskNotFound l t
  | .lessonShape j => s!"Lesson must be an object, got {j.literal}"
  | .practiceShape l => s!"Lesson '{l}' practice must be an object."
  | .taskShape t j => s!"Task '{t}' must be an object, got {j.literal}"
  | .mapperShape t => s!"Task '{t}' mapper must be a list."
  | .effectsShape t => s!"Task '{t}' effects must be an object."
  | .inputKind j => s!"Input spec must have a string type, got {j.write}"
  | .inputSettings j => s!"Input settings must be an object, got {j.write}"
  | .inputShape j =>
    "Can't have an input spec which isn't either an object or a string " ++
      s!"(error in processing {j.literal})"
  | .effectShape j => s!"Effect must be an object, got {j.literal}"
  | .sideEffectsShape j => s!"side_effects must be a list, got {j.literal}"
  | .outputsShape j =>
    s!"external_events settings must map output names to outputs, got {j.literal}"
  | .outputShape o j => s!"External event output '{o}' must be an object, got {j.literal}"
  | .outputLists o => s!"External event output '{o}' needs list-valued events and subsumes."
  | .noOutput l t es =>
    Wording.noOutput l t (if es.isEmpty then Wording.noEvents else Wording.listed es)
  | .ambiguous l t os es => Wording.ambiguous l t (Wording.listed os) (Wording.listed es)
  | .stepShape j => Wording.stepSpec "mapper must be either a string or an object" j
  | .stepKeys j =>
    Wording.stepSpec "Invalid mapper definition, expected exactly 'type' and 'value'" j
  | .stepKind j => Wording.stepSpec "Invalid mapper definition, 'type' must be a string" j
  | .unknownStep k j => Wording.stepSpec s!"Unknown step type '{k}'" j
  | .patternShape j => s!"regex step needs a pattern string, got {j.literal}"
  | .badPattern p why =>
    s!"regex step pattern {Text.quoted p} does not compile: {why.message p}"
  | .shellSettings j => s!"shell step settings must be an object, got {j.literal}"
  | .shellEnvironment j => s!"shell step environment must be an object, got {j.literal}"
  | .shellCommand j =>
    s!"shell_custom: settings.command must be a string. settings is {j.literal}"
  | .processFailed code reason =>
    s!"Unable to execute shell code {Text.quoted code}: {reason}"
  | .unknownResult r known => Wording.unknownResult r (Wording.listed known)
  | .replyShape j =>
    "Can't have a reply which isn't either an object or a string " ++
      s!"(error in processing {j.literal})"
  | .unlockNames j => s!"unlock side effect needs a list of lesson names, got {j.literal}"
  | .sideCommand j => s!"shell side effect needs a command string, got {j.literal}"
  | .unknownSideEffect k j =>
    s!"Don't know how to handle side effect type {k.literal} in parsing ({j.literal})"
  | .unknownClue k =>
    s!"Tried to register clue of type {k} but the service does not know how to handle " ++
      "that type. Known clue types are " ++ " ".intercalate clueKinds

end Fault

end Tutor
