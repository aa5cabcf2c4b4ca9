import Tutor.Settings.Beside
import Tutor.World

namespace Tutor.Settings

/-!
# Settings

A database keeps JSON values as texts under keys.

* `migrate` brings a database to the schema of this program, version by version;
* `attach` makes a file ready to be used as a database, `openPath` opens one;
* `getValue` and `setValue` read and write a value;
* `getStrings`, `setStrings`, `getClues` and `setClues` do so for lists of strings and of clues.
-/

/-- The key of the unlocked lessons. -/
def unlockedKey : String := "unlocked-lessons"

/-- The key of the completed lessons. -/
def knownKey : String := "known-spells"

/-- The key of the clues. -/
def cluesKey : String := "clues"

/-! ### Databases -/

/-- A database without content. -/
def blank : Database := ⟨0, none⟩

/-- A database brought to the next version. The table of the texts comes with version 1; one that is
there stays. -/
def advance (d : Database) : Database :=
  let next := d.version + 1
  ⟨next, if next = 1 then some (d.table.getD []) else d.table⟩

/-- A database brought through some versions, one after the other. -/
def advanceBy : Nat → Database → Database
  | 0, d => d
  | rounds + 1, d => advanceBy rounds (advance d)

/-- Bring a database to the schema of this program. What is stored stays; a newer schema is left
alone. -/
def migrate (d : Database) : Except Failure Database :=
  if schemaVersion < d.version then .error (.newerSchema d.version)
  else .ok (advanceBy (schemaVersion - d.version).toNat d)

/-- The database in a file; an empty file is a blank one. -/
def databaseIn : Node → Except Failure Database
  | .database d => .ok d
  | .file [] => .ok blank
  | .file _ => .error (.database .notADatabase)
  | .directory => .error (.database .operation)

/-- The database at a spot; where there is no file, it is a blank one. -/
def databaseOn (files : Files) (s : Spot) : Except Failure Database :=
  if barred files s then .error (.database .operation)
  else
    match files.node? s with
    | some node => databaseIn node
    | none => .ok blank

/-- The database at a path; where there is no file, it is a blank one. -/
def databaseAt (files : Files) (p : Path) : Except Failure Database :=
  match files.locate p with
  | .ok s => databaseOn files s
  | .error .notFound => .ok blank
  | .error _ => .error (.database .operation)

/-- The database of the connection. -/
def current : Act Database := do
  let w ← get
  match w.connection with
  | .closed => throw (.database .closed)
  | .memory d => return d
  | .file p => Act.ofExcept (databaseAt w.host.files p)

/-- Change the connection. -/
def connect (c : Connection) : Act Unit :=
  modify fun w => { w with connection := c }

/-- Put a database at a path. -/
def store (p : Path) (d : Database) : Act Unit := do
  let w ← get
  match w.host.files.locate p with
  | .error _ => throw (.database .operation)
  | .ok s =>
    if isDirectory w.host.files s || isDirectory w.host.files (journalOf s) then
      throw (.database .operation)
    else Act.setFiles (putDatabase s d w.host.files)

/-- Change the database of the connection. -/
def replace (d : Database) : Act Unit := do
  match (← get).connection with
  | .closed => throw (.database .closed)
  | .memory _ => connect (.memory d)
  | .file p => store p d

/-- The name of a database that has no file. -/
def memoryName : String := ":memory:"

/-- Connect to a new database without a file. -/
def openMemory : Act Unit := do
  connect (.memory (← Act.ofExcept (migrate blank)))

/-- Make the directories above a path. -/
def makeParent (p : Path) : Act Unit := do
  if p.parent.hasNull then throw .nullInPath
  else
    match (← get).host.files.makeDirs p.parent with
    | .error f => throw (.file f)
    | .ok files => Act.setFiles files

/-- Change the files by a step that is refused where a directory is in the way. -/
def prepare (bars : Files → Bool) (step : Files → Files) : Act Unit := do
  let w ← get
  if bars w.host.files then throw (.database .operation)
  else Act.setFiles (step w.host.files)

/-- Begin to use a file as a database: it comes to be if there is none, and what lies beside it is
cleared away. -/
def attachAt (s : Spot) : Act Database := do
  prepare (isDirectory · s) (touch s)
  prepare (journalBarred · s) (clearJournal s)
  prepare (logBarred · s) (clearLog s)
  Act.ofExcept (databaseOn (← get).host.files s)

/-- Begin to use the file at a path as a database. -/
def attach (p : Path) : Act Database := do
  if p.hasNull then throw .nullInPath
  else
    match (← get).host.files.locate p with
    | .error _ => throw (.database .operation)
    | .ok s => if fits s then attachAt s else throw (.database .operation)

/-- Connect to a database that was read at a path, once it is brought to the schema of this
program. -/
def adopt (p : Path) (d : Database) : Act Unit := do
  let migrated ← Act.ofExcept (migrate d)
  if migrated = d then connect (.file p)
  else
    store p migrated
    connect (.file p)

/-- Connect to the database at a path, with the directories above it. -/
def openPath (p : Path) : Act Unit := do
  makeParent p
  if p.toString == memoryName then openMemory
  else adopt p (← attach p)

/-- Close the connection. -/
def close : Act Unit :=
  connect .closed

/-- The versions a database can have. -/
def clampVersion (version : Int) : Int :=
  if -2147483648 ≤ version ∧ version ≤ 2147483647 then version else 0

/-- Give the database at a path a version. -/
def setVersion (p : Path) (version : Int) : Act Unit := do
  makeParent p
  let d ← attach p
  store p { d with version := clampVersion version }

/-! ### Values -/

/-- The stored texts. -/
def table : Act (Table String String) := do
  match (← current).table with
  | some t => return t
  | none => throw (.database .operation)

/-- The text stored under a key. -/
def getText (key : String) : Act (Option String) := do
  return (← table).get? key

/-- Store a text under a key. -/
def setText (key text : String) : Act Unit := do
  let t ← table
  replace { ← current with table := some (t.put key text) }

/-- The value stored under a key, null if there is none. -/
def getValue (key : String) : Act Json := do
  match ← getText key with
  | some text => Act.ofExcept (readJson text)
  | none => return .null

/-- Store a value under a key. -/
def setValue (key : String) (value : Json) : Act Unit :=
  setText key value.write

/-! ### Lists -/

/-- The strings of a stored value; a value that is no list counts as empty. -/
def stringsOf (value : Json) : List String :=
  match value with
  | .arr items => items.map Json.text
  | _ => []

/-- The strings stored under a key. -/
def getStrings (key : String) : Act (List String) := do
  return stringsOf (← getValue key)

/-- Store strings under a key. -/
def setStrings (key : String) (values : List String) : Act Unit :=
  setValue key (.ofStrings values)

/-- The clues of a stored value: pairs of a content and a type. -/
def cluesOf (value : Json) : List (String × String) :=
  match value with
  | .arr items =>
    items.filterMap fun
      | .arr [content, kind] => some (content.text, kind.text)
      | _ => none
  | _ => []

/-- The clues, each with its type. -/
def getClues : Act (List (String × String)) := do
  return cluesOf (← getValue cluesKey)

/-- Store clues. -/
def setClues (clues : List (String × String)) : Act Unit :=
  setValue cluesKey (.arr (clues.map fun c => .ofStrings [c.1, c.2]))

end Tutor.Settings
