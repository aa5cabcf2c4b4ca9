import Tutor.Shell.Builtins
import Tutor.Shell.Reader
import Tutor.Shell.Tools

namespace Tutor.Shell

/-!
# Running scripts

* `Script.redirected` runs a command with its channels connected;
* `runCommand` runs a command, `runText` reads and runs code line by line;
* `runScript` runs a whole script and gives back what it leaves.

Every step into a part of a command and every round of a loop takes some fuel.
-/

namespace Script

/-! ### Channels -/

/-- Open a file for output. -/
def openSink (target : Bytes) (keep : Bool) : Script (Option Sink) := do
  let m ← get
  let path := pathOf target
  if target == "/dev/null".toList then return some .nowhere
  else if target == "/dev/stdout".toList then return Table.get? m.sinks 1
  else if target == "/dev/stderr".toList then return Table.get? m.sinks 2
  else
    match m.files.locate path with
    | .error why =>
      complain (target ++ (": " ++ why.text).toList)
      return none
    | .ok spot =>
      match m.files.node? spot, keep with
      | some .directory, _ =>
        complain (target ++ (": " ++ FileFlaw.isADirectory.text).toList)
        return none
      | some _, true => return some (.file path)
      | _, _ =>
        modify fun m => { m with files := m.files.put spot (.file []) }
        return some (.file path)

/-- Lead channels to a sink; without a sink nothing is done. -/
def connect (channels : List Nat) (sink : Option Sink) : Script Bool := do
  match sink with
  | none => return false
  | some sink =>
    modify fun m =>
      { m with sinks := channels.foldl (fun sinks c => Table.put sinks c sink) m.sinks }
    return true

/-- Set up a redirection; false if that fails. -/
def redirect (run : RunCode) (r : Redirection) : Script Bool := do
  let target ← expandText run r.target
  let channel := r.number.getD 1
  match r.link with
  | .text =>
    modify fun m => { m with input := target }
    return true
  | .read =>
    match (← get).files.readBytes (pathOf target) with
    | .ok b =>
      modify fun m => { m with input := b.map fun c => byte c.toNat }
      return true
    | .error e =>
      complain (target ++ (": " ++ e.why.text).toList)
      return false
  | .write => connect [channel] (← openSink target false)
  | .append => connect [channel] (← openSink target true)
  | .writeBoth => connect [1, 2] (← openSink target false)
  | .appendBoth => connect [1, 2] (← openSink target true)
  | .duplicate =>
    match wholeNumber? target with
    | some n =>
      let sink := Table.get? (← get).sinks n.toNat
      if sink.isNone && n != 0 then complain (target ++ ": Bad file descriptor".toList)
      connect [channel] sink
    | none =>
      if target == ['-'] then
        modify fun m => { m with sinks := Table.erase m.sinks channel }
        return true
      -- what is no channel is a file for both outputs
      else connect [1, 2] (← openSink target false)

/-- Set up redirections one after the other, up to one that fails. -/
def redirectAll (run : RunCode) : List Redirection → Script Bool
  | [] => return true
  | r :: rest => do if ← redirect run r then redirectAll run rest else return false

/-- The redirection gives new input. -/
def givesInput (r : Redirection) : Bool :=
  r.link == .read || r.link == .text

/-- Run a command with redirections. If one fails, the command does not run. -/
def redirected (run : RunCode) (rs : List Redirection) (a : Script Unit) : Script Unit := do
  let before ← get
  try
    if ← redirectAll run rs then a else finish 1
  finally
    modify fun m =>
      { m with
        sinks := before.sinks
        input := if rs.any givesInput then before.input else m.input }

/-! ### Loops and functions -/

/-- Run one round of a loop; false if it is the last one. -/
def inRound (a : Script Unit) : Script Bool :=
  tryCatch (do
      a
      return true)
    fun l =>
      match l with
      | .loops (n + 2) => throw (.loops (n + 1))
      | .loops _ => return false
      | .rounds (n + 2) => throw (.rounds (n + 1))
      | .rounds _ => return true
      | l => throw l

/-- Run a loop; inside, it can be left. -/
def inLoop (a : Script Unit) : Script Unit := do
  try
    modify fun m => { m with loops := m.loops + 1 }
    a
  finally
    modify fun m => { m with loops := m.loops - 1 }

/-- Run rounds for some items. -/
def rounds {α : Type} (round : α → Script Bool) : List α → Script Unit
  | [] => return
  | a :: rest => do if ← round a then rounds round rest

/-- Run the body of a function with arguments. -/
def inFunction (arguments : List Bytes) (a : Script Unit) : Script Unit := do
  let before ← get
  try
    modify fun m =>
      { m with arguments := arguments, loops := 0, calls := m.calls + 1, hidden := [] }
    tryCatch a fun l =>
      match l with
      | .function => return
      | l => throw l
  finally
    let hidden := (← get).hidden
    hidden.forM fun h => restore h.1 h.2
    modify fun m =>
      { m with
        arguments := before.arguments
        loops := before.loops
        calls := before.calls
        hidden := before.hidden }

/-! ### Commands -/

/-- A word as a trace shows it. -/
def shown (s : Bytes) : Bytes :=
  if s.isEmpty || s.any fun c => specialChars.contains c || c == '\n' then
    '\'' :: (s.flatMap fun c => if c == '\'' then "'\\''".toList else [c]) ++ ['\'']
  else s

/-- Show a command before it runs, if that is wanted. -/
def trace (words : List Bytes) : Script Unit := do
  if (← get).options.traced then report ("+ ".toList ++ joined (words.map shown))

/-- The variables that programs see. -/
def environment : Script (Table Bytes Bytes) := do
  return (← get).bindings.filterMap fun v =>
    if v.2.exported then some (v.1, v.2.value) else none

/-- Run a program. -/
def runTool (t : Tool) (arguments : List Bytes) : Script Unit := do
  let m ← get
  let r := t ⟨m.files, ← environment, m.input⟩ arguments
  r.errors.forM report
  write r.output
  if r.readsInput then modify fun m => { m with input := [] }
  finish r.status

/-- There is no such command. -/
def notFound (name : Bytes) : Script Unit := do
  if name.contains '/' then
    complain (name ++ ": No such file or directory".toList)
  else complain (name ++ ": command not found".toList)
  finish 127

/-- Tell what a name stands for. -/
def describe (name : Bytes) (brief : Bool) : Script Unit := do
  let text := String.ofList name
  let kind :=
    if Table.has (← get).functions name then some " is a function"
    else if (builtin? text).isSome || ["eval", "exec", "command", "builtin", "type"].contains text
    then some " is a shell builtin"
    else none
  match kind with
  | some k =>
    writeLine (if brief then name else name ++ k.toList)
    finish 0
  | none =>
    match tool? text with
    | some _ =>
      let path := "/usr/bin/".toList ++ name
      writeLine (if brief then path else name ++ " is ".toList ++ path)
      finish 0
    | none =>
      if !brief then complain ("type: ".toList ++ name ++ ": not found".toList)
      finish 1

/-- Give a variable the value of an assignment. -/
def carryOut (run : RunCode) (a : Assignment) : Script Unit := do
  let new ← expandText run a.value
  let old ← if a.appended then value? a.name else pure none
  assign a.name (old.getD [] ++ new)

/-- Run a command with variables that are set and exported for it alone. -/
def withAssignments (run : RunCode) (assignments : List Assignment) (a : Script Unit) :
    Script Unit := do
  let before ← assignments.mapM fun a => do
    let v ← lookup a.name
    return (a.name, v)
  try
    for a in assignments do
      carryOut run a
      mark a.name fun v => { v with exported := true }
    a
  finally
    before.forM fun b => restore b.1 b.2

/-- The condition holds. -/
def decideCondition (run : RunCode) : Condition → Script Bool
  | .unary o w => do
    return unaryHolds (← get) (String.ofList o) (← expandText run w)
  | .binary o a b => do
    let x ← expandText run a
    match String.ofList o with
    | "=" | "==" => return globMatches (← expandGlob run b) x
    | "!=" => return !globMatches (← expandGlob run b) x
    | o =>
      -- the other operators compare numbers, or else texts and files
      let y ← expandText run b
      if (numbersCompare o 0 0).isSome then
        match ← calculated "[[: " x, ← calculated "[[: " y with
        | .ok n, .ok k => return (numbersCompare o n k).getD false
        | .error e, _ | _, .error e =>
          complain e
          return false
      else
        match binaryHolds o x y with
        | .ok b => return b
        | .error _ => return false
  | .negated c => do return !(← decideCondition run c)
  | .both a b => do
    if ← decideCondition run a then decideCondition run b else return false
  | .either a b => do
    if ← decideCondition run a then return true else decideCondition run b

/-- A word matches one of some patterns. -/
def matchesOne (run : RunCode) (s : Bytes) : List Word → Script Bool
  | [] => return false
  | p :: rest => do
    if globMatches (← expandGlob run p) s then return true else matchesOne run s rest

/-- The commands of the first clause with a matching pattern. -/
def chosenClause (run : RunCode) (s : Bytes) : List (List Word × Command) → Script Command
  | [] => return .nothing
  | (patterns, body) :: rest => do
    if ← matchesOne run s patterns then return body else chosenClause run s rest

/-- Work out an expression of a command. -/
def commandValue (run : RunCode) (text : Bytes) : Script (Option Int) := do
  match ← calculated "((: " (← expandExpression run text) with
  | .ok n => return some n
  | .error e =>
    complain e
    return none

end Script

/-! ### Running -/

/-- Who runs code: that is named in messages about code that cannot be read. -/
inductive Caller
  | commandLine
  | evaluation
  | substitution
  deriving DecidableEq, Repr

/-- The name of a caller in messages. -/
def Caller.name : Caller → String
  | .commandLine => "-c"
  | .evaluation => "eval"
  | .substitution => "command substitution"

/-- Code cannot be read. -/
def refuseCode (caller : Caller) (r : Refused) : Script Unit := do
  let start := (← get).name ++ s!": {caller.name}: ".toList
  r.message.forM fun l => Script.report (start ++ l)
  let status := if r.inner then 127 else 2
  if caller == .evaluation then Script.finish status else Script.exit status

/-- Report what is odd about code. -/
def reportWarnings (s : Source) : Script Unit := do
  let name := (← get).name
  s.warnings.reverse.forM fun w =>
    Script.report (name ++ s!": line {w.1}: ".toList ++ w.2)

mutual

/-- Run a command. -/
def runCommand : (fuel : Nat) → Command → Script Unit
  | 0, _ => throw (.killed 9)
  | _, .nothing => return
  | fuel + 1, .simple line assignments words redirections =>
    runSimple fuel line assignments words redirections
  | fuel + 1, .sequence a b => do
    runCommand fuel a
    runCommand fuel b
  | fuel + 1, .both a b => do
    Script.guarding (runCommand fuel a)
    if (← get).status == 0 then runCommand fuel b
  | fuel + 1, .either a b => do
    Script.guarding (runCommand fuel a)
    if (← get).status != 0 then runCommand fuel b
  | fuel + 1, .negated a => do
    Script.guarding (runCommand fuel a)
    Script.finishIf ((← get).status != 0)
  | fuel + 1, .pipe a b => do
    -- the first command is done before the second one reads what it wrote
    let output ← Script.captured (runCommand fuel a)
    let first := (← get).status
    let input := (← get).input
    modify fun m => { m with input := output }
    Script.apart (runCommand fuel b)
    modify fun m => { m with input := input }
    let m ← get
    if m.options.pipeFails && m.status == 0 then Script.finish first
    Script.check
  | fuel + 1, .subshell a => do
    Script.apart (runCommand fuel a)
    Script.check
  | fuel + 1, .branch condition yes no => do
    Script.guarding (runCommand fuel condition)
    if (← get).status == 0 then runCommand fuel yes
    else
      Script.finish 0
      runCommand fuel no
  | fuel + 1, .loop isUntil condition body =>
    Script.inLoop (runLoop fuel 0 isUntil condition body)
  | fuel + 1, .each line name words body => do
    modify fun m => { m with line := line }
    let items ←
      match words with
      | some words => expandWords (runInner fuel) words
      -- without a list it goes through the arguments
      | none => do pure (← get).arguments
    if !Script.isName name then
      Script.complain ('\x60' :: name ++ "': not a valid identifier".toList)
      Script.finish 1
    else
      Script.finish 0
      Script.inLoop (Script.rounds (fun item => do
        Script.assign name item
        Script.inRound (runCommand fuel body)) items)
  | fuel + 1, .count line start condition step body => do
    modify fun m => { m with line := line }
    let _ ← Script.commandValue (runInner fuel) start
    Script.finish 0
    Script.inLoop (runCount fuel condition step body)
  | fuel + 1, .select line subject clauses => do
    modify fun m => { m with line := line }
    let s ← expandText (runInner fuel) subject
    let body ← Script.chosenClause (runInner fuel) s clauses
    Script.finish 0
    runCommand fuel body
  | fuel + 1, .arithmetic line text => do
    modify fun m => { m with line := line }
    let n ← Script.commandValue (runInner fuel) text
    Script.finishIf (n.any (· != 0))
    Script.check
  | fuel + 1, .test line condition => do
    modify fun m => { m with line := line }
    Script.finishIf (← Script.decideCondition (runInner fuel) condition)
    Script.check
  | _ + 1, .define name body => do
    modify fun m => { m with functions := Table.put m.functions name body }
    Script.finish 0
  | fuel + 1, .redirected line body redirections => do
    modify fun m => { m with line := line }
    Script.redirected (runInner fuel) redirections (runCommand fuel body)
  | fuel + 1, .background a => do
    -- it is waited for at once, and its status is not looked at
    Script.apart (runCommand fuel a)
    Script.finish 0

/-- Run rounds while a condition succeeds, or until it does; `status` is that of the last round. -/
def runLoop : (fuel : Nat) → (status : Nat) → Bool → Command → Command → Script Unit
  | 0, _, _, _, _ => throw (.killed 9)
  | fuel + 1, status, isUntil, condition, body => do
    let more ← Script.inRound (Script.guarding (runCommand fuel condition))
    if more && ((← get).status == 0) != isUntil then
      if ← Script.inRound (runCommand fuel body) then
        runLoop fuel (← get).status isUntil condition body
    else Script.finish status

/-- Run rounds while an expression is not zero; an empty one never is. -/
def runCount : (fuel : Nat) → Bytes → Bytes → Command → Script Unit
  | 0, _, _, _ => throw (.killed 9)
  | fuel + 1, condition, step, body => do
    let go ←
      if condition.all isSpace then pure (some 1)
      else Script.commandValue (runInner fuel) condition
    if go.any (· != 0) then
      if ← Script.inRound (runCommand fuel body) then
        let _ ← Script.commandValue (runInner fuel) step
        runCount fuel condition step body

/-- Run code that is to be replaced by its output. -/
def runInner : (fuel : Nat) → RunCode
  | 0, _ => throw (.killed 9)
  | fuel + 1, code => do
    let before ← get
    let output ← Script.captured (runText .substitution fuel (.start before.line code))
    modify fun m => { m with innerStatus := m.status, status := before.status, line := before.line }
    return output

/-- Run a simple command. -/
def runSimple :
    (fuel : Nat) → Nat → List Assignment → List Word → List Redirection → Script Unit
  | 0, _, _, _, _ => throw (.killed 9)
  | fuel + 1, line, assignments, words, redirections => do
    modify fun m => { m with line := line, innerStatus := 0 }
    let run := runInner fuel
    match ← expandWords run words with
    | [] =>
      Script.redirected run redirections do
        assignments.forM (Script.carryOut run)
        Script.finish (← get).innerStatus
    | [['e', 'x', 'e', 'c']] =>
      Script.finishIf (← Script.redirectAll run redirections)
    | name :: arguments =>
      Script.trace (name :: arguments)
      Script.redirected run redirections
        (Script.withAssignments run assignments (runWords fuel name arguments))
    runArrived fuel
    Script.check

/-- Run the code that signals set off. -/
def runArrived : (fuel : Nat) → Script Unit
  | 0 => throw (.killed 9)
  | fuel + 1 => do
    match (← get).arrived with
    | [] => return
    | n :: rest =>
      modify fun m => { m with arrived := rest }
      let m ← get
      runText .evaluation fuel (.start m.line ((Table.get? m.traps n).getD []))
      Script.finish m.status
      runArrived fuel

/-- Run a command by its name and its arguments. -/
def runWords : (fuel : Nat) → Bytes → List Bytes → Script Unit
  | 0, _, _ => throw (.killed 9)
  | fuel + 1, name, arguments => do
    match Table.get? (← get).functions name with
    | some body => Script.inFunction arguments (runCommand fuel body)
    | none =>
      match builtin? (String.ofList name) with
      | some act => act arguments
      | none => runSpecial fuel name arguments

/-- Run a command that runs other commands, or a program. -/
def runSpecial : (fuel : Nat) → Bytes → List Bytes → Script Unit
  | 0, _, _ => throw (.killed 9)
  | fuel + 1, name, arguments => do
    match String.ofList name, arguments with
    | "eval", words =>
      Script.finish 0
      runText .evaluation fuel (.start (← get).line (Script.joined words))
    | "exec", command :: arguments =>
      match tool? (String.ofList command), builtin? (String.ofList command) with
      | none, none =>
        Script.complain ("exec: ".toList ++ command ++ ": not found".toList)
        Script.exit 127
      | _, _ =>
        runWords fuel command arguments
        Script.exit (← get).status
    | "command", ['-', 'v'] :: command :: _ => Script.describe command true
    | "type", command :: _ => Script.describe command false
    | "command", command :: arguments | "builtin", command :: arguments =>
      match builtin? (String.ofList command) with
      | some act => act arguments
      | none => runSpecial fuel command arguments
    | "bash", ['-', 'c'] :: code :: words | "sh", ['-', 'c'] :: code :: words
    | "/bin/bash", ['-', 'c'] :: code :: words | "/bin/sh", ['-', 'c'] :: code :: words =>
      -- of what this shell knows, another one is given what is exported
      Script.apart do
        modify fun m =>
          { m with
            name := words.headD name
            arguments := words.drop 1
            bindings := m.bindings.filter (·.2.exported)
            functions := []
            options := ⟨false, false, false, false⟩
            calls := 0 }
        Script.finish 0
        runText .commandLine fuel (.start 1 code)
    | text, _ =>
      match tool? text with
      | some t => Script.runTool t arguments
      | none => Script.notFound name

/-- Read and run code line by line. -/
def runText (caller : Caller) : (fuel : Nat) → Source → Script Unit
  | 0, _ => throw (.killed 9)
  | fuel + 1, source =>
    match nextLine source with
    | .error r => refuseCode caller r
    | .ok none => return
    | .ok (some (c, rest)) => do
      reportWarnings rest
      runCommand fuel c
      runText caller fuel { rest with warnings := [] }

end

/-- How many steps a script may take into the parts of a command and round by round. -/
def scriptFuel : Nat := 100000

/-- How a script ends. -/
inductive Ending
  | exited (status : Nat)
  | killed (signal : Nat)
  deriving DecidableEq, Repr

/-- What a script leaves. -/
structure ScriptResult where
  ending : Ending
  output : Bytes
  errors : Bytes

/-- Directories that are always there, and a file that is. -/
def commonFiles : Files where
  entries :=
    (["tmp", "dev", "bin", "etc", "home", "root", "usr", "var"].map fun d => ([d], .directory)) ++
      [(["dev", "null"], .file [])]

/-- Variables that are there from the start, below those of the environment. -/
def startVariables (environment : Table Bytes Bytes) : Table Bytes Variable :=
  let path := "/usr/local/sbin:/usr/local/bin:/usr/sbin:/usr/bin:/sbin:/bin".toList
  let own : List (String × Bytes × Bool) :=
    [("PWD", ['/'], true), ("SHLVL", ['1'], true), ("IFS", " \t\n".toList, false),
     ("PATH", path, false), ("OPTIND", ['1'], false), ("UID", ['0'], false), ("EUID", ['0'], false),
     ("BASH", "/bin/bash".toList, false), ("TERM", "dumb".toList, false),
     ("BASH_VERSION", "5.2.15(1)-release".toList, false)]
  let given := environment.filter fun v => Script.isName v.1 && v.1 != "IFS".toList
  let start := own.map fun v => (v.1.toList, (⟨v.2.1, v.2.2, false⟩ : Variable))
  given.foldl (fun t v => Table.put t v.1 ⟨v.2, true, false⟩) start

/-- The state of a script before it runs. Output and errors go to a stream each. -/
def Machine.start (name : Bytes) (environment : Table Bytes Bytes) : Machine :=
  { name := name
    bindings := startVariables environment
    functions := []
    arguments := []
    options := ⟨false, false, false, false⟩
    status := 0
    innerStatus := 0
    line := 1
    guarded := false
    loops := 0
    calls := 0
    hidden := []
    traps := []
    arrived := []
    input := []
    sinks := [(1, .stream 0), (2, .stream 1)]
    streams := [[], []]
    files := commonFiles }

/-- Run code, and then the code that its end sets off. -/
def runToEnd (code : Bytes) : Script Unit := do
  let leave ← tryCatch (do
      runText .commandLine scriptFuel (.start 1 code)
      return none)
    fun l => return some l
  if leave != some (.killed 9) then
    let m ← get
    if let some farewell := Table.get? m.traps 0 then
      modify fun m => { m with traps := [] }
      runText .evaluation scriptFuel (.start 1 farewell)
      Script.finish m.status
  if let some (.killed n) := leave then throw (.killed n)

/-- Run a script. -/
def runScript (name code : Bytes) (environment : Table Bytes Bytes) : ScriptResult :=
  let (result, m) := (runToEnd code).run.run (.start name environment)
  { ending :=
      match result with
      | .error (.killed n) => .killed n
      | _ => .exited m.status
    output := (m.streams.headD []).reverse.flatten
    errors := ((m.streams.drop 1).headD []).reverse.flatten }

end Tutor.Shell
