import Tutor.Course.Catalog
import Tutor.Events.Tracker
import Tutor.Host.Journal
import Tutor.Host.Runner

namespace Tutor

/-!
# The world of an operation

* `Host` is what the program finds around it: files, the environment, programs to run and chance;
* `World` adds what the program keeps: the lessons, the settings and the tracker, and the journal;
* `Act` is an operation, which may fail and keeps what it did before it failed;
* `Boundary` is where the tracker reports.
-/

/-- A connection to a database of settings. -/
inductive Connection
  | closed
  /-- A database that lives as long as the connection. -/
  | memory (content : Database)
  | file (path : Path)
  deriving DecidableEq, Repr

/-- The surroundings of the program. -/
structure Host where
  environment : Table String String
  files : Files
  runner : Runner
  /-- The calls so far, newest first. -/
  calls : List Call
  /-- The random numbers to come. -/
  chance : Nat → Int
  /-- How many of them have been drawn. -/
  drawn : Nat
  /-- The home directory of the account, if it has one. -/
  account : Option String := some "/root"

/-- All that an operation reads and changes. -/
structure World where
  host : Host
  catalog : Catalog
  connection : Connection
  tracker : Tracker
  /-- What others have seen, newest first. -/
  journal : List Entry

/-- An operation: it may change the world, and it may fail. -/
abbrev Act := ExceptT Failure (StateM World)

/-- Where the tracker reports. -/
structure Boundary where
  /-- These events are waited for. -/
  announce : List String → Act Unit
  /-- This task may go on. -/
  signal : TaskKey → Act Unit

namespace Act

/-- Run an operation in a world. -/
def perform {α : Type} (a : Act α) (w : World) : Except Failure α × World :=
  a.run.run w

/-- A result or a failure as an operation. -/
def ofExcept {α : Type} : Except Failure α → Act α
  | .ok a => pure a
  | .error e => throw e

/-- Fail with a fault. -/
def refuse {α : Type} (f : Fault) : Act α :=
  throw (.fault f)

/-- A result or a fault as an operation. -/
def ofFault {α : Type} : Except Fault α → Act α
  | .ok a => pure a
  | .error f => refuse f

/-- Write to the journal. -/
def note (e : Entry) : Act Unit :=
  modify fun w => { w with journal := e :: w.journal }

/-- Write a log record. -/
def log (level : Level) (topic : Topic) (message : String) : Act Unit :=
  note (.log level topic message)

/-- Print a line. -/
def print (text : String) : Act Unit :=
  note (.line text)

/-- Change the files. -/
def setFiles (files : Files) : Act Unit :=
  modify fun w => { w with host := { w.host with files := files } }

/-- Call a program. -/
def call (c : Call) : Act RunOutcome := do
  let w ← get
  let outcome := w.host.runner w.host.calls c
  set { w with host := { w.host with calls := c :: w.host.calls } }
  return outcome

/-- Draw one of `count` items by its number; negative numbers count from the end. -/
def draw (count : Nat) : Act Nat := do
  let w ← get
  set { w with host := { w.host with drawn := w.host.drawn + 1 } }
  return (w.host.chance w.host.drawn % (count : Int)).toNat

end Act

/-- A boundary that writes log records. -/
def Boundary.logging : Boundary where
  announce events := Act.log .info .events s!"Listening for lesson events: {Wording.listed events}"
  signal key := Act.log .info .events s!"Lesson events satisfied for {key.1}/{key.2}"

end Tutor
