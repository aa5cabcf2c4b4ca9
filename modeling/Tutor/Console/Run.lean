import Tutor.Console.Arguments
import Tutor.Console.Play

namespace Tutor.Console

/-!
# Running the program

* `listLessons`, `describeOnce` and `attemptOnce` carry out the commands that do not ask for input;
* `begin` opens the service for a command line and carries out its command, as far as no input is
  needed;
* `run` carries out a command line on given input.
-/

/-- A name in a column of twelve characters. -/
def padded (name : String) : String :=
  name ++ String.ofList (List.replicate (12 - name.length) ' ')

/-- Print lines. -/
def printLines : List String → Act Unit
  | [] => return
  | l :: rest => do
    Act.print l
    printLines rest

/-- The line of a lesson in the list. -/
def lessonLine (known : List String) (l : Service.Summary) : String :=
  let marker := if known.contains l.name then "*" else " "
  s!"{marker} {padded l.name} {l.description}"

/-- List the unlocked lessons and mark the completed ones. -/
def listLessons : Act Unit := do
  let known := (← Service.knownLessons client).map (·.name)
  Act.print listHeader
  let lessons ← Service.unlockedLessons client
  printLines (lessons.map (lessonLine known))
  printLines ((← get).catalog.warnings.map ("warning: " ++ ·))

/-- How an argument that was left out shows. -/
def argumentText (argument : Option String) : String :=
  argument.getD "[]"

/-- The task that arguments name. Where an argument was left out there is no such lesson, and in a
lesson that is there no task can be asked for. -/
def keyOf (lesson task : Option String) : Act TaskKey := do
  match lesson, task with
  | some l, some t => return (l, t)
  | some l, none =>
    if (← Catalog.lookup l).isSome then throw .wrongKind
    else Act.refuse (.taskNotFound l (argumentText none))
  | none, task => Act.refuse (.taskNotFound (argumentText none) (argumentText task))

/-- Describe a task: its prompt and its input. -/
def describeOnce (lesson task : Option String) : Act Int := do
  let described := do Service.describe boundary (← keyOf lesson task)
  match ← tryOrPrint described with
  | none => return 1
  | some (prompt, input) =>
    Act.print prompt
    Act.print input
    return 0

/-- Attempt a task with an argument; one that was left out cannot be attempted with. -/
def attemptArgument (key : TaskKey) (input : Option String) : Act (String × String) := do
  match input with
  | some text => Service.attempt key text
  | none =>
    let t ← Catalog.task key
    let _ ← compilePipeline key t.mapper
    throw .wrongKind

/-- Attempt a task once. Its events are waited for from here on. -/
def attemptOnce (lesson task input : Option String) : Act Int := do
  let attempted := do
    let key ← keyOf lesson task
    let _ ← Service.describe boundary key
    attemptArgument key input
  match ← tryOrPrint attempted with
  | none => return 1
  | some (responses, next) =>
    printResponses responses
    Act.print s!"next: {if next.isEmpty then noTask else next}"
    return 0
where
  /-- What is shown where no task follows. -/
  noTask : String := "<lesson complete>"

/-- Open the lessons and the settings that a command line names. -/
def openService (a : Arguments) : Act Unit := do
  Catalog.load a.lessonsFile
  Settings.openPath (.ofString a.database)

/-- Carry out a command on given input, and return the exit code. -/
def carryOut (command : Command) (input : List Incoming) : Act Int := do
  match command with
  | .lessons =>
    listLessons
    return 0
  | .describe lesson task => describeOnce lesson task
  | .attempt lesson task text => attemptOnce lesson task text
  | .play lesson =>
    playOn input (← start lesson)
    return 0

/-- Carry out an operation and close the settings, whether it fails or not. -/
def thenClose {α : Type} (a : Act α) : Act α := fun w =>
  let (r, w') := a w
  (r, { w' with connection := .closed })

/-- Carry out a command line on given input, and return the exit code. -/
def run (a : Arguments) (input : List Incoming) : Act Int := do
  openService a
  thenClose (carryOut a.command input)

end Tutor.Console
