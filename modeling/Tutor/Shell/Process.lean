import Tutor.Host.Runner
import Tutor.Shell.Interpreter
import Tutor.Text.Lines

namespace Tutor.Shell

/-!
# The shell as a runner

* `bytesOf` and `readOutput` lead from texts to bytes and back;
* `callFlaw` tells why a call cannot be passed on to a program;
* `builtInRunner` runs the calls that run a script.
-/

/-- The bytes of a text, in UTF-8. -/
def bytesOf (s : String) : Bytes :=
  s.toUTF8.toList.map fun b => byte b.toNat

/-- The text of what a program has written, with every line end as a newline. -/
def readOutput (s : Bytes) : String :=
  String.ofList (Text.unifyNewlines (Text.decodeLossy (s.map fun c => c.toNat.toUInt8)))

/-- The byte zero ends a text, so no text that is passed on can hold it. -/
def holdsZero (s : String) : Bool :=
  s.toList.any (·.toNat == 0)

/-- The longest text that can be passed on, in bytes. -/
def longestArgument : Nat := 131071

/-- The name of a program that is not given. -/
def noName : String := ""

/-- Why a call cannot be passed on. -/
def callFlaw (c : Call) : Option (RunnerFlaw × String) :=
  if c.environment.any fun v => v.1.toList.contains '=' then
    some (.badRequest, "illegal environment variable name")
  else if c.argv.any holdsZero || c.environment.any fun v => holdsZero v.1 || holdsZero v.2 then
    some (.badRequest, "embedded null byte")
  else if (c.argv.any fun a => longestArgument < a.utf8ByteSize) ||
      c.environment.any fun v => longestArgument < v.1.utf8ByteSize + v.2.utf8ByteSize + 1 then
    some (.system, s!"[Errno 7] Argument list too long: {Text.quoted (c.argv.headD noName)}")
  else none

/-- The result of a script; a signal that has ended it counts below zero. -/
def ScriptResult.toRunResult (r : ScriptResult) : RunResult :=
  { status :=
      match r.ending with
      | .exited n => n
      | .killed n => -n
    stdout := readOutput r.output
    stderr := readOutput r.errors }

/-- Runs scripts, and no other programs. -/
def builtInRunner : Runner := fun _ c =>
  match callFlaw c, c.argv with
  | some (why, message), _ => .failed why message
  | none, [program, "-c", code] =>
    let environment := c.environment.map fun v => (bytesOf v.1, bytesOf v.2)
    .finished (runScript (bytesOf program) (bytesOf code) environment).toRunResult
  | none, argv =>
    .failed .notFound s!"[Errno 2] No such file or directory: {Text.quoted (argv.headD noName)}"

end Tutor.Shell
