import Tutor.Failure

namespace Tutor

/-!
# Running programs

* `Call` is a request to run a program in an environment, `RunResult` what a program leaves;
* `Runner` answers a call, and may remember the calls before it.
-/

/-- A program to run with its arguments, and its whole environment. -/
structure Call where
  argv : List String
  environment : Table String String
  deriving DecidableEq, Repr

/-- What a program leaves. -/
structure RunResult where
  status : Int
  stdout : String
  stderr : String
  deriving DecidableEq, Repr

/-- The answer to a call. -/
inductive RunOutcome
  | finished (r : RunResult)
  | failed (why : RunnerFlaw) (message : String)
  deriving Repr

/-- Answers a call after the earlier calls, of which the newest comes first. -/
abbrev Runner := List Call → Call → RunOutcome

end Tutor
