import Tutor.Host.Files
import Tutor.Shell.Format
import Tutor.Shell.Script

namespace Tutor.Shell

/-!
# The machine that runs scripts

* `Machine` is the state of a script: its variables, functions and options, and its channels;
* `Leave` is a way to leave a command before its end;
* `Script` is what a command does;
* `Script.write`, `Script.complain`, `Script.apart` and `Script.captured` are its basic operations.
-/

/-- A variable. -/
structure Variable where
  value : Bytes
  /-- Programs see it. -/
  exported : Bool
  /-- It cannot be changed. -/
  fixed : Bool
  deriving DecidableEq, Repr

/-- Where output goes. -/
inductive Sink
  /-- Onto one of the streams, counted from the first one that was opened. -/
  | stream (n : Nat)
  | nowhere
  /-- To the end of a file. -/
  | file (path : Path)
  deriving DecidableEq, Repr

/-- Options of a script. -/
structure Options where
  /-- A failure ends the script. -/
  strict : Bool
  /-- Variables have to be set. -/
  setOnly : Bool
  /-- A pipe fails with any of its commands. -/
  pipeFails : Bool
  /-- Commands are shown before they run. -/
  traced : Bool
  deriving DecidableEq, Repr

/-- The state of a script. -/
structure Machine where
  /-- What the script calls itself. -/
  name : Bytes
  bindings : Table Bytes Variable
  functions : Table Bytes Command
  arguments : List Bytes
  options : Options
  /-- The status of the last command. -/
  status : Nat
  /-- The status of the last code that was replaced by its output. -/
  innerStatus : Nat
  line : Nat
  /-- A failure is expected here. -/
  guarded : Bool
  /-- How many loops and how many functions the command lies in. -/
  loops : Nat
  calls : Nat
  /-- What the variables that belong to the current function were before. -/
  hidden : Table Bytes (Option Variable)
  /-- Code that signals set off; number zero stands for the end of the script. -/
  traps : Table Nat Bytes
  /-- Signals that have arrived and whose code has yet to run. -/
  arrived : List Nat
  /-- The input that is not yet read. -/
  input : Bytes
  /-- Where the channels lead. -/
  sinks : Table Nat Sink
  /-- What has been written to each stream, the newest first. -/
  streams : List (List Bytes)
  files : Files

/-- A way to leave a command before its end. -/
inductive Leave
  /-- End so many loops. -/
  | loops (count : Nat)
  /-- End all but the last of so many loops, and go on with the next round of that. -/
  | rounds (count : Nat)
  | function
  | script
  /-- A signal ends the whole script. -/
  | killed (signal : Nat)
  deriving DecidableEq, Repr

/-- What a command does. -/
abbrev Script := ExceptT Leave (StateM Machine)

namespace Script

/-! ### Status -/

/-- Set the status. -/
def finish (status : Nat) : Script Unit :=
  modify fun m => { m with status := status }

/-- Set the status from a condition. -/
def finishIf (b : Bool) : Script Unit :=
  finish (if b then 0 else 1)

/-- End the script with a status. -/
def exit {α : Type} (status : Nat) : Script α := do
  finish status
  throw .script

/-! ### Output -/

/-- Write to a sink. -/
def writeTo (sink : Sink) (s : Bytes) : Script Unit :=
  modify fun m =>
    match sink with
    | .stream n => { m with streams := m.streams.modify n (s :: ·) }
    | .nowhere => m
    | .file path =>
      let old := (m.files.readBytes path).toOption.getD []
      match m.files.locate path with
      | .ok spot =>
        { m with files := m.files.put spot (.file (old ++ s.map fun c => c.toNat.toUInt8)) }
      | .error _ => m

/-- Write to a channel; one that leads nowhere swallows it. -/
def writeOn (channel : Nat) (s : Bytes) : Script Unit := do
  match Table.get? (← get).sinks channel with
  | some sink => writeTo sink s
  | none => return

/-- Write to the output. -/
def write (s : Bytes) : Script Unit :=
  writeOn 1 s

/-- Write a line to the output. -/
def writeLine (s : Bytes) : Script Unit :=
  write (s ++ ['\n'])

/-- Write a line of errors. -/
def report (s : Bytes) : Script Unit :=
  writeOn 2 (s ++ ['\n'])

/-- Write an error message, with the name of the script and the line. In a function the name is
another one. -/
def complain (s : Bytes) : Script Unit := do
  let m ← get
  let name := if m.calls = 0 then m.name else "environment".toList
  report (name ++ s!": line {m.line}: ".toList ++ s)

/-- Complain about a command and fail. -/
def fail (command : String) (s : Bytes) : Script Unit := do
  complain ((command ++ ": ").toList ++ s)
  finish 1

/-! ### Variables -/

/-- A variable. -/
def lookup (name : Bytes) : Script (Option Variable) := do
  return Table.get? (← get).bindings name

/-- The value of a variable. -/
def value? (name : Bytes) : Script (Option Bytes) := do
  return (← lookup name).map (·.value)

/-- Give a variable a value, unless it cannot be changed; that ends the script. -/
def assign (name value : Bytes) : Script Unit := do
  match ← lookup name with
  | some v =>
    if v.fixed then
      complain (name ++ ": readonly variable".toList)
      exit 1
    modify fun m => { m with bindings := Table.put m.bindings name { v with value := value } }
  | none =>
    modify fun m => { m with bindings := Table.put m.bindings name ⟨value, false, false⟩ }

/-- Change what is recorded of a variable; one that is not there gets an empty value. -/
def mark (name : Bytes) (f : Variable → Variable) : Script Unit :=
  modify fun m =>
    let v := (Table.get? m.bindings name).getD ⟨[], false, false⟩
    { m with bindings := Table.put m.bindings name (f v) }

/-- Put a variable back to what it was. -/
def restore (name : Bytes) (before : Option Variable) : Script Unit :=
  modify fun m =>
    { m with
      bindings :=
        match before with
        | some v => Table.put m.bindings name v
        | none => Table.erase m.bindings name }

/-- The values of variables as they are now. -/
def values : Script (Bytes → Option Bytes) := do
  let m ← get
  return fun name => (Table.get? m.bindings name).map (·.value)

/-! ### Scripts inside scripts -/

/-- Run commands whose changes stay inside: only what they write and read remains. -/
def apart (a : Script Unit) : Script Unit := do
  let before ← get
  tryCatch (do
      modify fun m => { m with loops := 0, traps := [] }
      a)
    fun l =>
      match l with
      | .killed signal => throw (.killed signal)
      | _ => pure ()
  modify fun m =>
    { before with
      status := m.status
      input := m.input
      streams := m.streams
      files := m.files }

/-- Run commands apart, and give back their output. -/
def captured (a : Script Unit) : Script Bytes := do
  let n := (← get).streams.length
  apart do
    modify fun m =>
      { m with streams := m.streams ++ [[]], sinks := Table.put m.sinks 1 (.stream n) }
    a
  let m ← get
  set { m with streams := m.streams.take n }
  return ((m.streams.drop n).headD []).reverse.flatten

/-- Run commands where a failure is expected. -/
def guarding (a : Script Unit) : Script Unit := do
  let before := (← get).guarded
  try
    modify fun m => { m with guarded := true }
    a
  finally
    modify fun m => { m with guarded := before }

/-- A signal arrives at the script. -/
def arrive (signal : Nat) (isFatal : Bool) : Script Unit := do
  match Table.get? (← get).traps signal with
  | some _ => modify fun m => { m with arrived := m.arrived ++ [signal] }
  | none => if isFatal then throw (.killed signal)

/-- After a failure that is not expected, a strict script ends. -/
def check : Script Unit := do
  let m ← get
  if m.options.strict && !m.guarded && m.status != 0 then throw .script

end Script

end Tutor.Shell
