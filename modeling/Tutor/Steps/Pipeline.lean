import Tutor.Events.Waiting
import Tutor.Pattern.Search
import Tutor.Shell.Execute
import Tutor.Steps.Spec

namespace Tutor

/-!
# Pipelines

The steps of a task, one after the other: each takes a text, gives a text to the next, and may add
auxiliaries, of which some become responses.

* `Step.run` is one step, `runPipeline` all of them;
* `compilePipeline` reads all entries of a mapper before any step runs.
-/

/-- A text and the auxiliaries collected on the way to it. -/
structure Progress where
  text : String
  auxiliaries : List Json
  deriving Repr

/-- An auxiliary that ends up among the responses. -/
def responseOf (kind : String) (value : Json) : Json :=
  .obj
    [("type", .str "response"), ("content", .obj [("type", .str kind), ("value", value)])]

/-- What is said to a player who waits. -/
def waitMessages : List String :=
  ["Wait for it", "Combubulating transistors", "Adjusting for combinatorial flux",
   "Hacking the matrix", "Exchanging electrical bits", "Refuelling source code",
   "Fetching arbitrary refs", "Resolving mathematical contradictions", "Fluxing liquid input"]

/-! ### Patterns -/

/-- The failure that a pattern leads to. -/
def patternFailure (pattern : String) : Pattern.Stop → Failure
  | .fault f => .fault (.badPattern pattern f)
  | .numberTooLarge => .overflow
  | .numberTooLong n => .badNumber (.tooLong n)
  | .mixedFlags => .mixedFlags

/-- Look for a pattern anywhere in a text. -/
def matchPattern (pattern : Json) (text : String) : Except Failure String :=
  match pattern with
  | .str p =>
    match Pattern.read p with
    | .ok program => .ok (if program.found text then "success" else "failure")
    | .error stop => .error (patternFailure p stop)
  | other => .error (.fault (.patternShape other))

/-! ### Shell code -/

/-- The variables that the settings of a shell step set. -/
def stepVariables (settings : Json) : Except Fault (List (String × Json)) :=
  match settings with
  | .null => .ok []
  | .obj _ =>
    match settings.getD "environment" .null with
    | .null => .ok []
    | .obj overrides => .ok overrides
    | other => .error (.shellEnvironment other)
  | other => .error (.shellSettings other)

/-- Both outputs of a program, on lines of their own. -/
def bothOutputs (r : RunResult) : String :=
  s!"{r.stdout}\n{r.stderr}"

/-- Run shell code with the variables that settings ask for. -/
def runShell (code : String) (settings : Json) : Act String := do
  let overrides ← Act.ofFault (stepVariables settings)
  return bothOutputs (← Shell.execute code overrides)

/-- The command that settings give. -/
def customCommand (settings : Json) : Except Fault String :=
  match settings.get? "command" with
  | some (.str command) => .ok command
  | _ => .error (.shellCommand settings)

/-! ### Steps -/

/-- Run a step of a task on a text. -/
def Step.run (key : TaskKey) (step : Step) (text : String) : Act Progress := do
  match step.kind with
  | .input => return ⟨text, []⟩
  | .regex => return ⟨← Act.ofExcept (matchPattern step.value text), []⟩
  | .shell => return ⟨← runShell text step.value, []⟩
  | .shellCustom =>
    let command ← Act.ofFault (customCommand step.value)
    return ⟨← runShell command step.value, []⟩
  | .waitMessage =>
    let i ← Act.draw waitMessages.length
    return ⟨text, [responseOf "scroll_wait" (.str (waitMessages.getD i ""))]⟩
  | .wrappedOutput => return ⟨text, [responseOf "wrapped" (.str text)]⟩
  | .checkEvents => return ⟨(← Tracker.resolveTask key).1, []⟩

/-- Read the entries of a mapper. -/
def compilePipeline (key : TaskKey) (mapper : List Json) : Act (List Step) := do
  let steps ← Act.ofFault (mapper.mapM Step.ofJson)
  Act.log .debug .pipeline s!"Compiled {steps.length} steps for {key.1}/{key.2}"
  return steps

/-- Run steps one after the other. -/
def runPipeline (key : TaskKey) : List Step → String → Act Progress
  | [], text => return ⟨text, []⟩
  | step :: rest, text => do
    let first ← step.run key text
    let last ← runPipeline key rest first.text
    return ⟨last.text, first.auxiliaries ++ last.auxiliaries⟩

end Tutor
