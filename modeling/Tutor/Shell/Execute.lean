import Tutor.World

namespace Tutor.Shell

/-!
# Executing shell code

* `overlay` sets variables on top of an environment;
* `execute` runs code in bash, in the environment of the program with an overlay. The code is
  followed by `exit 0`, so that a command that fails does not look like a runner that fails.
-/

/-- An environment with the variables of an object set, as text. -/
def overlay (environment : Table String String) (members : List (String × Json)) :
    Table String String :=
  members.foldl (fun e m => Table.put e m.1 m.2.text) environment

/-- The arguments that run code. -/
def commandLine (code : String) : List String :=
  ["/bin/bash", "-c", code ++ "; exit 0"]

/-- Run shell code with some variables set. -/
def execute (code : String) (overrides : List (String × Json)) : Act RunResult := do
  let environment := overlay (← get).host.environment overrides
  Act.log .debug .steps s!"Executing shell code: {code}"
  match ← Act.call { argv := commandLine code, environment := environment } with
  | .finished r => return r
  | .failed .broken m => throw (.runner .broken m)
  | .failed _ m => Act.refuse (.processFailed code m)

end Tutor.Shell
