import Tutor.Console.Run
import Tutor.Settings.Stored
import Tutor.Shell.Process

namespace Tutor.Terminal

/-!
# The program

Carries out a command line at a terminal. Everything that is decided is decided by `Console`; here
files are read before an operation and written after it, and what the operation has put into the
journal is shown.
-/

/-- The variables of the environment that the program passes on. -/
def variableNames : List String :=
  ["HOME", "XDG_CONFIG_HOME", "PATH", "LANG", "LC_ALL", "USER", "SHELL", "TERM", "PWD"]

/-- The environment. -/
def readEnvironment : IO (Table String String) :=
  variableNames.filterMapM fun name => do
    return (← IO.getEnv name).map fun value => (name, value)

/-- The bytes of a file that can be read. -/
def readBytes (path : Path) : IO (Option (List UInt8)) := do
  try
    return some (← IO.FS.readBinFile path.toString).toList
  catch _ => return none

/-- Note what lies at a path. -/
def noteFile (kind : List UInt8 → Node) (files : Files) (path : Path) : IO Files := do
  match ← readBytes path with
  | some bytes => return (files.write path (kind bytes)).toOption.getD files
  | none => return (files.delete path).toOption.getD files

/-- The files of lessons that a command line and the environment name. -/
def lessonsFiles (host : Host) (a : Console.Arguments) : List Path :=
  (Catalog.userFile host).toOption.toList ++ (a.lessonsFile.map Path.ofString).toList

/-- The file of the settings. -/
def settingsFile (a : Console.Arguments) : Path :=
  Path.ofString a.database

/-- Look at the files of lessons again. -/
def refresh (a : Console.Arguments) (w : World) : IO World := do
  let files ← (lessonsFiles w.host a).foldlM (noteFile .file) w.host.files
  return { w with host := { w.host with files := files } }

/-- The world at the start: the files as they are now, and chance from a seed. Accounts are not looked
up, so that the environment has to name the home directory. -/
def startWorld (a : Console.Arguments) : IO World := do
  let seed ← IO.rand 0 1000000
  let environment ← readEnvironment
  let directory := (Path.ofString (← IO.currentDir).toString).names
  let files ← noteFile .ofSettings { directory := directory } (settingsFile a)
  refresh a
    { host :=
        { environment := environment
          files := files
          runner := Shell.builtInRunner
          calls := []
          chance := fun n => ((stdNext (mkStdGen (seed + n))).1 : Nat)
          drawn := 0
          account := none }
      catalog := .empty
      connection := .closed
      tracker := .empty
      journal := [] }

/-- Show an entry of the journal: lines and prompts, and grave log records among the errors. -/
def showEntry (verbose : Bool) : Entry → IO Unit
  | .line text => IO.println text
  | .prompt text => do
    IO.print text
    (← IO.getStdout).flush
  | .log level _ message =>
    if verbose || level == .warning || level == .error then IO.eprintln message else return
  | _ => return

/-- Keep the settings, if they have changed. -/
def keepSettings (a : Console.Arguments) (before after : World) : IO Unit := do
  let path := settingsFile a
  let old := (before.host.files.lookup path).toOption.bind Node.toSettings
  match (after.host.files.lookup path).toOption.bind Node.toSettings with
  | some text =>
    if old != some text then
      IO.FS.createDirAll path.parent.toString
      IO.FS.writeFile path.toString text
  | none => return

/-- Carry out an operation, and show and keep what it leads to. -/
def perform {α : Type} (a : Console.Arguments) (act : Act α) (w : World) :
    IO (Except Failure α × World) := do
  let (result, w') := act.perform { w with journal := [] }
  w'.journal.reverse.forM (showEntry a.verbose)
  keepSettings a w w'
  return (result, w')

/-- Tell why the program has failed. -/
def explain (f : Failure) : IO UInt32 := do
  IO.eprintln s!"Failed: {f.text}"
  return 1

/-- Play: read lines until the game is finished. -/
partial def play (a : Console.Arguments) (w : World) (stage : Console.Stage) : IO UInt32 := do
  if stage == .finished then return 0
  let line ← (← IO.getStdin).getLine
  if line.isEmpty then return 1
  let text := String.ofList (line.toList.filter fun c => c != '\n' && c != '\r')
  let (result, w) ← perform a (Console.answer stage text) (← refresh a w)
  match result with
  | .ok stage => play a w stage
  | .error f => explain f

/-- Carry out a command line. -/
def carryOut (a : Console.Arguments) : IO UInt32 := do
  let (result, w) ← perform a (Console.openService a) (← startWorld a)
  match result with
  | .error f => explain f
  | .ok _ =>
    match a.command with
    | .play lesson =>
      let (result, w) ← perform a (Console.start lesson) w
      match result with
      | .ok stage => play a w stage
      | .error f => explain f
    | command =>
      let (result, _) ← perform a (Console.carryOut command []) w
      match result with
      | .ok code => return code.toNat.toUInt32
      | .error f => explain f

end Tutor.Terminal

/-- Carry out the command line of the program. -/
def main (words : List String) : IO UInt32 := do
  match Tutor.Console.parseArguments words with
  | .ok a => Tutor.Terminal.carryOut a
  | .error (.help page) =>
    IO.print page
    return 0
  | .error .usage =>
    IO.eprint (Tutor.Console.Help.program)
    return 2
