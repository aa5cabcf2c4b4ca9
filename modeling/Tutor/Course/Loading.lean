import Tutor.Course.Document
import Tutor.Text.Lines
import Tutor.World

namespace Tutor

/-!
# Loading lessons

Lessons come from a file or, where no file can be read, are the bundled ones.

* `lessonsInFile` reads one file; what is wrong with it becomes a warning;
* `candidates` are the files to try;
* `load` finds a catalog, `reload` reads its file again.
-/

namespace Catalog

/-- The text of a file, with or without a byte order mark. -/
def textInFile (files : Files) (p : Path) : Except Failure String :=
  if p.hasNull then .error .nullInPath
  else
    match files.readBytes p with
    | .error f => .error (.file f)
    | .ok bytes =>
      match Text.decodeMarked bytes with
      | .error f => .error (.badBytes f)
      | .ok text => .ok (String.ofList (Text.unifyNewlines text))

/-- Loading goes on after a failure. -/
def isTolerated : Failure → Bool
  | .file _ | .badJson _ | .badNumber _ | .badBytes _ | .nullInPath | .rootNotAList
  | .missingMember _ | .fault _ => true
  | _ => false

/-- The lessons of a file, or a warning. -/
def lessonsInFile (files : Files) (p : Path) : Except Failure (Except String (List Lesson)) :=
  match (textInFile files p).bind lessonsOfText with
  | .ok lessons => .ok (.ok lessons)
  | .error e =>
    if isTolerated e then .ok (.error s!"Unable to load {p.toString}: {e.text}") else .error e

/-- The home directory, which the environment or the account names. Slashes at its end are dropped,
and it cannot start with a tilde. -/
def homeOf (host : Host) : Except Failure Path :=
  match (host.environment.get? "HOME").orElse fun _ => host.account with
  | none => .error .noHome
  | some home =>
    match (home.toList.reverse.dropWhile (· == '/')).reverse with
    | [] => .ok (.ofString "/")
    | '~' :: _ => .error .noHome
    | name => .ok (.ofString (String.ofList name))

/-- The directory for configuration: the one that the environment names, or else one in the home
directory. -/
def configurationOf (host : Host) : Except Failure Path :=
  match (host.environment.get? "XDG_CONFIG_HOME").filter fun d => !d.isEmpty with
  | some directory => .ok (.ofString directory)
  | none => do return (← homeOf host).join (.ofString ".config")

/-- The lessons file of the user. -/
def userFile (host : Host) : Except Failure Path := do
  return (← configurationOf host).join (.ofString "showmehow/lessons.json")

/-- The file that was asked for. -/
def askedFor (explicit : Option String) : List Path :=
  match explicit with
  | some p => if p.isEmpty then [] else [Path.ofString p]
  | none => []

/-- The files to try: one that was asked for, and that of the user if it exists. -/
def candidates (host : Host) (explicit : Option String) : Except Failure (List Path) := do
  let own ← userFile host
  if ← (host.files.exists? own).mapError .file then .ok (askedFor explicit ++ [own])
  else .ok (askedFor explicit)

/-- The first file that can be read, with the warnings of those before it. -/
def firstReadable (files : Files) : List Path → (warnings : List String) → Except Failure Catalog
  | [], warnings => .ok ⟨bundledLessons, warnings, none⟩
  | p :: rest, warnings => do
    match ← lessonsInFile files p with
    | .ok lessons => .ok ⟨lessons, warnings, some p⟩
    | .error warning => firstReadable files rest (warnings ++ [warning])

/-- The catalog that files and the bundled lessons make up. -/
def find (host : Host) (explicit : Option String) : Except Failure Catalog := do
  firstReadable host.files (← candidates host explicit) []

/-- Log warnings. -/
def warn : List String → Act Unit
  | [] => return
  | w :: rest => do
    Act.log .warning .catalog w
    warn rest

/-- Use a catalog. -/
def use (c : Catalog) : Act Unit := do
  modify fun w => { w with catalog := c }
  warn c.warnings

/-- Use the catalog that files and the bundled lessons make up. -/
def load (explicit : Option String) : Act Unit := do
  use (← Act.ofExcept (find (← get).host explicit))

/-- Look a lesson up; a name that several lessons share is logged. -/
def lookup (name : String) : Act (Option Lesson) := do
  let c := (← get).catalog
  let count := (c.named name).length
  if 1 < count then
    Act.log .warning .catalog s!"Expected a single lesson named {name} but found {count}"
  return c.lesson? name

/-- Look a task up. -/
def task (key : TaskKey) : Act Task := do
  match (← lookup key.1).bind fun l => l.practice.get? key.2 with
  | some t => return t
  | none => Act.refuse (.taskNotFound key.1 key.2)

/-- Read the file of the catalog again, and return whether there are new lessons. -/
def reload : Act Bool := do
  let w ← get
  match w.catalog.source with
  | none => return false
  | some p =>
    match ← Act.ofExcept (lessonsInFile w.host.files p) with
    | .error warning =>
      warn [warning]
      modify fun w => { w with catalog := { w.catalog with warnings := [warning] } }
      return false
    | .ok lessons =>
      modify fun w => { w with catalog := ⟨lessons, [], some p⟩ }
      Act.log .info .catalog s!"Reloaded {lessons.length} lessons from {p.toString}"
      return true

end Catalog

end Tutor
