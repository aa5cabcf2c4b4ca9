import Tutor.Host.Files

namespace Tutor.Settings

/-!
# Files beside a database

SQLite keeps files of its own beside a database: a journal while it writes, and a log with an index
where a log was left behind. Whatever lies at their places when a database is opened is taken for
such a file and cleared away. It is supposed that no store is open on it then, and a log that a
connection takes over counts as gone from there on.

* `journalOf`, `logOf` and `indexOf` are their places, and `fits` tells whether they can be named;
* `barred` tells whether a directory is in their way;
* `touch`, `clearJournal` and `clearLog` prepare the files for reading, `putDatabase` stores a
  database.
-/

/-- The place whose name is that of another one with an ending. -/
def beside (ending : String) (s : Spot) : Spot :=
  s.dropLast ++ [s.getLastD "" ++ ending]

/-- Where the journal of a database lies. -/
def journalOf (s : Spot) : Spot :=
  beside "-journal" s

/-- Where the log of a database lies. -/
def logOf (s : Spot) : Spot :=
  beside "-wal" s

/-- Where the index of a log lies. -/
def indexOf (s : Spot) : Spot :=
  beside "-shm" s

/-- Longest path of a file that SQLite opens, in bytes. -/
def longestOpened : Nat := 512

/-- The journal of a database that lies here can be named, so that the database can be written. -/
def fits (s : Spot) : Bool :=
  let journal : Path := { root := "/", names := journalOf s }
  journal.toString.utf8ByteSize ≤ longestOpened
    && ((journalOf s).getLastD "").utf8ByteSize ≤ Files.longestName

/-! ### What lies there -/

/-- A directory lies here. -/
def isDirectory (files : Files) (s : Spot) : Bool :=
  match files.node? s with
  | some .directory => true
  | _ => false

/-- A file lies here that is not empty. -/
def isFilled (files : Files) (s : Spot) : Bool :=
  match files.node? s with
  | some (.file bytes) => !bytes.isEmpty
  | some (.database _) => true
  | _ => false

/-- There is no database yet: there is nothing, or an empty file. -/
def isFresh (files : Files) (s : Spot) : Bool :=
  !isDirectory files s && !isFilled files s

/-- The file in the place of the journal is taken for one. Where there is a database, it must not
start with a zero. -/
def hasJournal (files : Files) (s : Spot) : Bool :=
  match files.node? (journalOf s) with
  | some (.file (b :: _)) => isFresh files s || b != 0
  | some (.database _) => true
  | _ => false

/-- A directory is in the way of the journal. A journal that is only to be thrown away is not looked
for. -/
def journalBarred (files : Files) (s : Spot) : Bool :=
  !isFresh files s && isDirectory files (journalOf s)

/-- A directory is in the way of the log, or in that of its index if there is a log. -/
def logBarred (files : Files) (s : Spot) : Bool :=
  isDirectory files (logOf s)
    || (isFilled files (logOf s) && !isFresh files s && isDirectory files (indexOf s))

/-- The database cannot be read, for a directory is in the way. -/
def barred (files : Files) (s : Spot) : Bool :=
  journalBarred files s || logBarred files s

/-! ### What is done to it -/

/-- An empty file comes to be where there is none. -/
def touch (s : Spot) (files : Files) : Files :=
  match files.node? s with
  | none => files.put s (.file [])
  | some _ => files

/-- Clear the journal away. -/
def clearJournal (s : Spot) (files : Files) : Files :=
  if hasJournal files s then files.remove (journalOf s) else files

/-- Clear the log away. With a database that is there, it is taken over by the connection, and its
index goes with it. -/
def clearLog (s : Spot) (files : Files) : Files :=
  if !isFilled files (logOf s) then files
  else if isFresh files s then files.remove (logOf s)
  else (files.remove (logOf s)).remove (indexOf s)

/-- Put a database in its place. While it is written there is a journal, which is gone in the end. -/
def putDatabase (s : Spot) (d : Database) (files : Files) : Files :=
  (files.remove (journalOf s)).put s (.database d)

end Tutor.Settings
