import Tutor.Shell.Number

namespace Tutor.Shell

/-!
# Signals

* `signalNames` names the signals from number one on;
* `signalNumber?` reads a name or a number;
* `isFatalSignal` tells which signals end a shell.
-/

/-- The names of the signals, from number one on. -/
def signalNames : List String :=
  ["HUP", "INT", "QUIT", "ILL", "TRAP", "ABRT", "BUS", "FPE", "KILL", "USR1", "SEGV", "USR2",
   "PIPE", "ALRM", "TERM", "STKFLT", "CHLD", "CONT", "STOP", "TSTP", "TTIN", "TTOU", "URG", "XCPU",
   "XFSZ", "VTALRM", "PROF", "WINCH", "IO", "PWR", "SYS"]

/-- The greatest number of a signal. -/
def greatestSignal : Nat := 64

/-- The number of a signal by its number or its name, with or without `SIG`. Number zero, which also
goes by the name of the end of a script, only asks whether a process is there. -/
def signalNumber? (s : Bytes) : Option Nat :=
  match wholeNumber? s with
  | some n => if 0 ≤ n && n ≤ greatestSignal then some n.toNat else none
  | none =>
    let name := s.map Char.toUpper
    let name := if "SIG".toList.isPrefixOf name then name.drop 3 else name
    if name == "EXIT".toList then some 0
    else (signalNames.findIdx? fun k => k.toList == name).map (· + 1)

/-- The number of a signal, or of the one that a status tells about. -/
def signalOfStatus? (s : Bytes) : Option Nat :=
  match wholeNumber? s with
  | some n => signalNumber? (toString (if 128 < n then n - 128 else n)).toList
  | none => signalNumber? s

/-- The name of a signal. -/
def signalName? (n : Nat) : Option String :=
  if n = 0 then some "EXIT" else signalNames[n - 1]?

/-- Signals that do not end a shell: it ignores them, or they stop a process or let it go on. -/
def harmlessSignals : List Nat :=
  [0, 3, 17, 18, 19, 20, 21, 22, 23, 28]

/-- The signal ends a shell that does not handle it. -/
def isFatalSignal (n : Nat) : Bool :=
  !harmlessSignals.contains n

/-- The signal cannot be handled. -/
def isSureSignal (n : Nat) : Bool :=
  n = 9 || n = 19

end Tutor.Shell
