import Tutor.Console.Responses
import Tutor.Service.Lessons
import Tutor.Text.Digits
import Tutor.Text.Whole

namespace Tutor.Console

/-!
# Playing

The game is a machine that waits for one line at a time: at the menu of lessons, or at the prompt of
a task. What happens between two lines is one operation.

* `boundary` prints what the tracker reports;
* `Stage` is what the game waits for;
* `showMenu`, `startLesson` and `visit` lead to the next stage, `answer` takes a line;
* `playOn` plays a list of lines.
-/

/-- The client that the console is. -/
def client : String := "console"

/-- The tracker reports to the player. -/
def boundary : Boundary where
  announce events := do
    if !events.isEmpty then
      Act.print s!"(waiting for: {Wording.listed events}; fire one with ':event NAME')"
  signal key := Act.print s!"(something happened in {key.1}/{key.2}; press enter to check)"

/-- Print a fault. -/
def printFault (f : Fault) : Act Unit :=
  Act.print s!"Error ({f.kind.name}): {f.message}"

/-- Try an operation; a fault of it is printed and leads to nothing. -/
def tryOrPrint {α : Type} (a : Act α) : Act (Option α) := fun w =>
  match a w with
  | (.ok x, w') => (.ok (some x), w')
  | (.error (.fault f), w') => ((printFault f).bind fun _ => pure none) w'
  | (.error e, w') => (.error e, w')

/-! ### Stages -/

/-- What the game waits for. -/
inductive Stage
  /-- The choice of one of these lessons. -/
  | choosing (lessons : List String)
  /-- An attempt at a task. -/
  | attempting (key : TaskKey)
  | finished
  deriving DecidableEq, Repr

/-- Ask for a line. -/
def ask (prompt : String) (s : Stage) : Act Stage := do
  Act.note (.prompt prompt)
  return s

/-- Print the lines of the menu from a number on. -/
def printChoices (known : List String) : Nat → List Service.Summary → Act Unit
  | _, [] => return
  | n, l :: rest => do
    let marker := if known.contains l.name then " (done)" else ""
    Act.print s!"{n}) {l.name}: {l.description}{marker}"
    printChoices known (n + 1) rest

/-- The header of lists of lessons. -/
def listHeader : String := "\n=== Lessons ==="

/-- Show the menu and wait for a choice. -/
def showMenu : Act Stage := do
  let lessons ← Service.unlockedLessons client
  let known := (← Service.knownLessons client).map (·.name)
  Act.print listHeader
  printChoices known 1 lessons
  Act.print "q) Quit"
  ask "Choose: " (.choosing (lessons.map (·.name)))

/-- Wait for an attempt at a task. -/
def askAttempt (key : TaskKey) : Act Stage :=
  ask "$ " (.attempting key)

/-- Come to a task of a lesson; no task means that the lesson is complete. -/
def visit (key : TaskKey) : Act Stage := do
  if key.2.isEmpty then
    Act.print s!"Lesson '{key.1}' complete."
    showMenu
  else
    match ← tryOrPrint (Service.describe boundary key) with
    | none => showMenu
    | some (prompt, _) =>
      Act.print s!"\n{prompt}"
      askAttempt key

/-- Start a lesson. -/
def startLesson (name : String) : Act Stage := do
  match ← Catalog.lookup name with
  | none =>
    Act.print s!"Unknown lesson: {name}"
    showMenu
  | some l =>
    Act.print ""
    Act.print s!"=== {l.name} ==="
    Act.print "Type :b to go back, :q to quit, ':event NAME' to fire an event."
    visit (name, l.entry)

/-- Start to play, with a lesson or at the menu. -/
def start : Option String → Act Stage
  | some name => startLesson name
  | none => showMenu

/-! ### Lines -/

/-- What a line at the menu means. -/
inductive Choice
  | quit
  | lesson (name : String)
  | invalid
  deriving DecidableEq, Repr

/-- Read a line at the menu: `q`, or the number of a lesson. -/
def Choice.read (lessons : List String) (line : String) : Except Failure Choice :=
  let s := Text.lowered (Text.trim line.toList)
  if s = ['q'] then .ok .quit
  else if !s.isEmpty && s.all fun c => Text.isDigitChar c.toNat then
    match Text.readWhole s with
    | .error why => .error (.badNumber why)
    | .ok n =>
      if 1 ≤ n then
        match lessons[n.toNat - 1]? with
        | some name => .ok (.lesson name)
        | none => .ok .invalid
      else .ok .invalid
  else .ok .invalid

/-- What a line at the prompt of a task means. -/
inductive Request
  | quit
  | back
  | event (name : String)
  | reload
  | attempt (text : String)
  deriving DecidableEq, Repr

/-- The commands that quit. -/
def quitCommands : List String := [":quit", ":exit", ":q"]

/-- The commands that lead back to the menu. -/
def backCommands : List String := [":back", ":b", "back"]

/-- The start of a line that fires an event. -/
def eventStart : List Char := ":event ".toList

/-- The command that reads the lessons again. -/
def reloadCommand : String := ":reload"

/-- Read a line at the prompt of a task. Commands are known in any case and between blanks. -/
def Request.read (line : String) : Request :=
  let trimmed := Text.trim line.toList
  let lowered := Text.lowered trimmed
  if quitCommands.contains (String.ofList lowered) then .quit
  else if backCommands.contains (String.ofList lowered) then .back
  else if eventStart.isPrefixOf lowered then
    .event (String.ofList (Text.trim (trimmed.drop eventStart.length)))
  else if String.ofList lowered == reloadCommand then .reload
  else .attempt line

/-- Attempt a task with a text, and go on to the next task. -/
def attemptWith (key : TaskKey) (text : String) : Act Stage := do
  match ← tryOrPrint (Service.attempt key text) with
  | none => showMenu
  | some (responses, next) =>
    printResponses responses
    visit (key.1, next)

/-- Take a line at the prompt of a task. -/
def answerAttempt (key : TaskKey) (line : String) : Act Stage := do
  match Request.read line with
  | .quit => return .finished
  | .back => showMenu
  | .event name =>
    Service.notify boundary name
    askAttempt key
  | .reload =>
    Act.print (if ← Catalog.reload then "Lessons reloaded." else "Nothing to reload.")
    askAttempt key
  | .attempt text => attemptWith key text

/-- Take a line at the menu. -/
def answerChoice (lessons : List String) (line : String) : Act Stage := do
  match ← Act.ofExcept (Choice.read lessons line) with
  | .quit => return .finished
  | .lesson name => startLesson name
  | .invalid =>
    Act.print "Invalid choice."
    showMenu

/-- Take a line. -/
def answer (stage : Stage) (line : String) : Act Stage :=
  match stage with
  | .choosing lessons => answerChoice lessons line
  | .attempting key => answerAttempt key line
  | .finished => return .finished

/-- What comes in while the game waits: a line, or something that happens elsewhere. -/
inductive Incoming
  | line (text : String)
  | meanwhile (what : Act Unit)

/-- Play until the game is finished. -/
def playOn : List Incoming → Stage → Act Unit
  | _, .finished => return
  | [], _ => throw .endOfInput
  | .line text :: rest, stage => do playOn rest (← answer stage text)
  | .meanwhile what :: rest, stage => do
    what
    playOn rest stage

end Tutor.Console
