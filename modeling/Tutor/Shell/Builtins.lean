import Tutor.Shell.Signal
import Tutor.Shell.Test

namespace Tutor.Shell

/-!
# Commands of the shell itself

* `builtin?` gives what a command that the shell knows by itself does with its arguments. Commands
  that run other commands are not among them.
-/

namespace Script

/-- Join words with blanks between them. -/
def joined (words : List Bytes) : Bytes :=
  (words.intersperse [' ']).flatten

/-! ### Output -/

/-- The options of `echo` at the start of its arguments: no newline, escapes; and the rest. -/
def echoOptions : Bool → Bool → List Bytes → Bool × Bool × List Bytes
  | bare, escaped, (('-' :: o :: os) :: rest) =>
    if (o :: os).all fun c => c == 'n' || c == 'e' || c == 'E' then
      let escaped := match (o :: os).reverse.find? (· != 'n') with
        | some c => c == 'e'
        | none => escaped
      echoOptions (bare || (o :: os).contains 'n') escaped rest
    else (bare, escaped, ('-' :: o :: os) :: rest)
  | bare, escaped, rest => (bare, escaped, rest)

/-- Write the arguments. -/
def echo (arguments : List Bytes) : Script Unit := do
  let (bare, escaped, words) := echoOptions false false arguments
  let u := if escaped then unescape .echo (joined words) else ⟨joined words, false, []⟩
  write (if bare || u.stopped then u.text else u.text ++ ['\n'])
  finish 0

/-- How `printf` is used. -/
def printfUsage : Bytes :=
  "printf: usage: printf [-v var] format [arguments]".toList

/-- Write under a format. -/
def printf (arguments : List Bytes) : Script Unit := do
  match arguments with
  | [] =>
    report printfUsage
    finish 2
  | ['-', 'v'] :: name :: format :: rest =>
    let (output, complaints) := formatted format rest
    complaints.forM fun c => complain ("printf: ".toList ++ c)
    assign name output
    finishIf complaints.isEmpty
  | ['-', '-'] :: format :: rest | format :: rest =>
    match arguments.head?, format with
    | some ['-', '-'], _ | _, [] | _, ['-'] => go format rest
    | _, '-' :: c :: _ =>
      complain ("printf: -".toList ++ [c] ++ ": invalid option".toList)
      report printfUsage
      finish 2
    | _, _ => go format rest
where
  /-- Write under a format that is no option. -/
  go (format : Bytes) (arguments : List Bytes) : Script Unit := do
    let (output, complaints) := formatted format arguments
    complaints.forM fun c => complain ("printf: ".toList ++ c)
    write output
    let isGrave (c : Bytes) : Bool := !"warning: ".toList.isPrefixOf c
    finishIf !(complaints.any isGrave)

/-! ### Input -/

/-- Cut the first line off the input as bits: escaped characters are not split. The last part tells
whether a newline ended it. -/
def takeLine (raw : Bool) : (fuel : Nat) → Bytes → List Bit × Bytes × Bool
  | 0, s => ([], s, false)
  | _, [] => ([], [], false)
  | _, '\n' :: r => ([], r, true)
  | fuel + 1, '\\' :: c :: r =>
    if raw then
      let (bits, rest, ended) := takeLine raw fuel (c :: r)
      (.loose '\\' :: bits, rest, ended)
    else
      let (bits, rest, ended) := takeLine raw fuel r
      (if c == '\n' then bits else .fixed true c :: bits, rest, ended)
  | fuel + 1, c :: r =>
    let (bits, rest, ended) := takeLine raw fuel r
    if c == '\\' && !raw then (bits, rest, ended) else (.loose c :: bits, rest, ended)

/-- A bit separates fields. -/
def isSeparator (separators : Bytes) : Bit → Bool
  | .loose c => separators.contains c
  | _ => false

/-- A bit is a blank that separates fields. -/
def isBlankSeparator (separators : Bytes) : Bit → Bool
  | .loose c => separators.contains c && isSpace c
  | _ => false

/-- Deal the fields of a line out to names; the last one gets the rest. -/
def dealFields (separators : Bytes) : List Bytes → List Bit → List (Bytes × Bytes)
  | [], _ => []
  | [name], bits =>
    let blank := isBlankSeparator separators
    [(name, textOf (((bits.dropWhile blank).reverse.dropWhile blank).reverse))]
  | name :: names, bits =>
    let blank := isBlankSeparator separators
    let bits := bits.dropWhile blank
    let isPart (b : Bit) : Bool := !isSeparator separators b
    let rest := (bits.dropWhile isPart).dropWhile blank
    let rest :=
      match rest with
      | b :: r => if isSeparator separators b then r else rest
      | [] => []
    (name, textOf (bits.takeWhile isPart)) :: dealFields separators names rest

/-- Read a line into variables. -/
def read (arguments : List Bytes) : Script Unit := do
  let raw := arguments.takeWhile (fun a => a.head? == some '-') |>.any (·.contains 'r')
  let names := arguments.dropWhile fun a => a.head? == some '-'
  let m ← get
  let (bits, rest, ended) := takeLine raw m.input.length m.input
  modify fun m => { m with input := rest }
  if names.isEmpty then assign "REPLY".toList (textOf bits)
  else (dealFields (← separators) names bits).forM fun p => assign p.1 p.2
  finishIf ended

/-! ### Variables -/

/-- A text is a name. -/
def isName (s : Bytes) : Bool :=
  s.head?.any startsName && s.all continuesName

/-- Set variables by `name=value`, and mark them; names alone are only marked. -/
def declare (command : String) (change : Variable → Variable) : List Bytes → Script Unit
  | [] => finish 0
  | a :: rest => do
    let name := a.takeWhile (· != '=')
    if !isName name then fail command ('\x60' :: a ++ "': not a valid identifier".toList)
    else
      match a.dropWhile (· != '=') with
      | _ :: value =>
        assign name value
        mark name change
      | [] => if change ⟨[], false, false⟩ != ⟨[], false, false⟩ then mark name change
      declare command change rest

/-- Arguments without options. -/
def plainArguments (arguments : List Bytes) : List Bytes :=
  (arguments.dropWhile fun a => a.head? == some '-' && a.length != 1 && a != "--".toList).dropWhile
    (· == "--".toList)

/-- Make variables belong to the current function. -/
def declareLocal (arguments : List Bytes) : Script Unit := do
  if (← get).calls = 0 then fail "local" "can only be used in a function".toList
  else
    for a in plainArguments arguments do
      let name := a.takeWhile (· != '=')
      let before ← lookup name
      modify fun m =>
        { m with
          hidden := if Table.has m.hidden name then m.hidden else (name, before) :: m.hidden }
      if !a.contains '=' then modify fun m => { m with bindings := Table.erase m.bindings name }
    declare "local" id (plainArguments arguments)

/-- Remove variables and functions. -/
def unset : List Bytes → Script Unit
  | [] => finish 0
  | name :: rest => do
    match ← lookup name with
    | some v =>
      if v.fixed then fail "unset" (name ++ ": cannot unset: readonly variable".toList)
      else
        modify fun m => { m with bindings := Table.erase m.bindings name }
        unset rest
    | none =>
      modify fun m => { m with functions := Table.erase m.functions name }
      unset rest

/-- Switch an option by its letter. -/
def switchOption (on : Bool) (c : Char) : Script Unit :=
  modify fun m =>
    { m with
      options :=
        match c with
        | 'e' => { m.options with strict := on }
        | 'u' => { m.options with setOnly := on }
        | 'x' => { m.options with traced := on }
        | _ => m.options }

/-- Switch options, or set the arguments of the script. -/
def set : List Bytes → Script Unit
  | [] => finish 0
  | a :: rest => do
    match a, rest with
    | ['-', '-'], rest => setArguments rest
    | ['-', 'o'], name :: rest | ['+', 'o'], name :: rest =>
      let on := a.head? == some '-'
      match String.ofList name with
      | "errexit" => switchOption on 'e'
      | "nounset" => switchOption on 'u'
      | "xtrace" => switchOption on 'x'
      | "pipefail" => modify fun m => { m with options := { m.options with pipeFails := on } }
      | _ => pure ()
      set rest
    | '-' :: c :: cs, rest =>
      (c :: cs).forM (switchOption true)
      set rest
    | '+' :: c :: cs, rest =>
      (c :: cs).forM (switchOption false)
      set rest
    | _, _ => setArguments (a :: rest)
where
  /-- Set the arguments of the script. -/
  setArguments (arguments : List Bytes) : Script Unit := do
    modify fun m => { m with arguments := arguments }
    finish 0

/-- Drop arguments of the script. -/
def shift (arguments : List Bytes) : Script Unit := do
  let n := ((arguments.head?.bind wholeNumber?).getD 1).toNat
  let m ← get
  if n ≤ m.arguments.length then
    modify fun m => { m with arguments := m.arguments.drop n }
    finish 0
  else finish 1

/-- Work out expressions; the last one decides. -/
def letAll (last : Int) : List Bytes → Script Unit
  | [] => finishIf (last != 0)
  | a :: rest => do
    match ← calculated "let: " a with
    | .ok n => letAll n rest
    | .error e =>
      complain e
      finish 1

/-! ### Leaving -/

/-- The status that a command is given, or the last one. -/
def givenStatus (command : String) (arguments : List Bytes) : Script (Option Nat) := do
  match plainArguments arguments with
  | [] =>
    match arguments with
    | a :: _ =>
      if a == "--".toList then return some (← get).status
      else check a []
    | [] => return some (← get).status
  | a :: rest => check a rest
where
  /-- Check that a status is a number and stands alone. -/
  check (a : Bytes) (rest : List Bytes) : Script (Option Nat) := do
    match wholeNumber? a with
    | none =>
      fail command (a ++ ": numeric argument required".toList)
      return some 2
    | some n =>
      if rest.isEmpty then return some (n % 256).toNat
      else
        fail command "too many arguments".toList
        return none

/-- End the script. -/
def leaveScript (arguments : List Bytes) : Script Unit := do
  exit ((← givenStatus "exit" arguments).getD 1)

/-- End the current function. -/
def leaveFunction (arguments : List Bytes) : Script Unit := do
  if (← get).calls = 0 then
    fail "return" "can only \x60return' from a function or sourced script".toList
  else
    finish ((← givenStatus "return" arguments).getD 1)
    throw .function

/-- Leave loops. -/
def leaveLoops (command : String) (leave : Nat → Leave) (arguments : List Bytes) :
    Script Unit := do
  let m ← get
  if m.loops = 0 then
    complain (command ++ ": only meaningful in a \x60for', \x60while', or \x60until' loop").toList
    finish 0
  else
    let n := ((arguments.head?.bind wholeNumber?).getD 1).toNat
    finish 0
    throw (leave (max 1 (min n m.loops)))

/-! ### Signals -/

/-- How `kill` is used. -/
def killUsage : Bytes :=
  ("kill: usage: kill [-s sigspec | -n signum | -sigspec] pid | jobspec ... or " ++
    "kill -l [sigspec]").toList

/-- Send a signal to processes. The script itself is the only one that is there. -/
def send (signal : Nat) : List Bytes → Script Unit
  | [] => return
  | p :: rest => do
    match wholeNumber? p with
    | some n =>
      if n == (processNumber : Int) || n == 0 then
        finish 0
        if isSureSignal signal then
          if isFatalSignal signal then throw (.killed signal)
        else arrive signal (isFatalSignal signal)
      else fail "kill" ("(".toList ++ p ++ ") - No such process".toList)
    | none => fail "kill" (p ++ ": arguments must be process or job IDs".toList)
    send signal rest

/-- Send a signal. -/
def kill (arguments : List Bytes) : Script Unit := do
  match arguments with
  | ['-', 'l'] :: n :: _ =>
    match signalOfStatus? n with
    | some k =>
      let name := (signalName? k).getD ""
      writeLine (if (wholeNumber? n).isSome then name.toList else (toString k).toList)
      finish 0
    | none => fail "kill" (n ++ ": invalid signal specification".toList)
  | ['-', 's'] :: s :: rest | ['-', 'n'] :: s :: rest => go s rest
  | ('-' :: 's' :: s) :: rest | ('-' :: 'n' :: s) :: rest => go s rest
  | ['-', '-'] :: rest => go "TERM".toList rest
  | ('-' :: s) :: rest => go s rest
  | rest => go "TERM".toList rest
where
  /-- Send a signal by its name or number. -/
  go (s : Bytes) (processes : List Bytes) : Script Unit := do
    match signalNumber? s, processes with
    | none, _ => fail "kill" (s ++ ": invalid signal specification".toList)
    | some _, [] =>
      report killUsage
      finish 2
    | some n, processes => send n processes

/-- Set code that signals set off. -/
def trap (arguments : List Bytes) : Script Unit := do
  match plainArguments arguments with
  | [] => finish 0
  | [s] =>
    modify fun m => { m with traps := Table.erase m.traps ((signalNumber? s).getD 0) }
    finish 0
  | code :: signals =>
    finish 0
    for s in signals do
      match signalNumber? s with
      | some n =>
        modify fun m =>
          { m with
            traps := if code == ['-'] then Table.erase m.traps n else Table.put m.traps n code }
      | none => fail "trap" (s ++ ": invalid signal specification".toList)

/-! ### Other commands -/

/-- Decide a condition. -/
def test (command : String) (words : List Bytes) : Script Unit := do
  match testWords (← get) words with
  | .ok b => finishIf b
  | .error e =>
    complain ((command ++ ": ").toList ++ e)
    finish 2

/-- Decide a condition before a closing bracket. -/
def bracketTest (words : List Bytes) : Script Unit := do
  if words.getLast? == some [']'] then test "[" words.dropLast
  else
    complain "[: missing \x60]'".toList
    finish 2

/-- Change the working directory. -/
def changeDirectory (arguments : List Bytes) : Script Unit := do
  let target ←
    match plainArguments arguments with
    | a :: _ => pure a
    | [] => do pure ((← value? "HOME".toList).getD [])
  if fileIs (← get).files target fun n => match n with | .directory => true | _ => false then
    assign "PWD".toList target
    finish 0
  else fail "cd" (target ++ ": No such file or directory".toList)

/-- Tell the working directory. -/
def tellDirectory (_ : List Bytes) : Script Unit := do
  writeLine ((← value? "PWD".toList).getD [])
  finish 0

end Script

/-- Commands that change nothing here. -/
def idleCommands : List String :=
  [":", "true", "wait", "times", "hash", "jobs", "alias", "unalias", "shopt", "ulimit", "disown",
   "enable", "bind", "complete"]

/-- Name the bits that new files go without; a change of them has no effect that shows. -/
def fileMask (arguments : List Bytes) : Script Unit := do
  if arguments.isEmpty then Script.write "0022\n".toList
  Script.finish 0

/-- What a command of the shell does with its arguments. -/
def builtin? (name : String) : Option (List Bytes → Script Unit) :=
  match name with
  | "echo" => some Script.echo
  | "printf" => some Script.printf
  | "read" => some Script.read
  | "false" => some fun _ => Script.finish 1
  | "umask" => some fileMask
  | "test" => some (Script.test "test")
  | "[" => some Script.bracketTest
  | "export" =>
    some fun a => Script.declare "export" (fun v => { v with exported := true })
      (Script.plainArguments a)
  | "readonly" =>
    some fun a => Script.declare "readonly" (fun v => { v with fixed := true })
      (Script.plainArguments a)
  | "declare" | "typeset" => some fun a => Script.declare name id (Script.plainArguments a)
  | "local" => some Script.declareLocal
  | "unset" => some fun a => Script.unset (Script.plainArguments a)
  | "set" => some Script.set
  | "shift" => some Script.shift
  | "let" =>
    some fun a =>
      if a.isEmpty then Script.fail "let" "expression expected".toList else Script.letAll 0 a
  | "exit" => some Script.leaveScript
  | "return" => some Script.leaveFunction
  | "break" => some (Script.leaveLoops "break" .loops)
  | "continue" => some (Script.leaveLoops "continue" .rounds)
  | "kill" => some Script.kill
  | "trap" => some Script.trap
  | "cd" => some Script.changeDirectory
  | "pwd" => some Script.tellDirectory
  | _ => if idleCommands.contains name then some fun _ => Script.finish 0 else none

end Tutor.Shell
