import Tutor.Host.Path
import Tutor.Json.Basic
import Tutor.Text.Quoted

namespace Tutor

/-!
# Files

The files a program can see: a table from places to directories, byte contents and databases. There
are no links among them.

* `Spot` is a place: the names that lead there from the top;
* `Files` has the working directory, where relative paths start, and what lies at which place;
* a path is led to its spot by `Files.locate`, which goes up at `..`;
* `Files.node?`, `Files.exists?`, `Files.readBytes` look at what is there;
* `Files.write`, `Files.delete`, `Files.makeDirs` change it.
-/

/-- A database of settings: a schema version, and the texts by key once the table is there. -/
structure Database where
  version : Int
  table : Option (Table String String)
  deriving DecidableEq, Repr, Inhabited

/-- What lies at a place. -/
inductive Node
  | directory
  | file (bytes : List UInt8)
  | database (content : Database)
  deriving Repr

/-- Why the file system refuses a request. -/
inductive FileFlaw
  | notFound
  | exists
  | notADirectory
  | isADirectory
  | nameTooLong
  deriving DecidableEq, Repr

/-- The number of a flaw. -/
def FileFlaw.number : FileFlaw → Nat
  | .notFound => 2
  | .exists => 17
  | .notADirectory => 20
  | .isADirectory => 21
  | .nameTooLong => 36

/-- The description of a flaw. -/
def FileFlaw.text : FileFlaw → String
  | .notFound => "No such file or directory"
  | .exists => "File exists"
  | .notADirectory => "Not a directory"
  | .isADirectory => "Is a directory"
  | .nameTooLong => "File name too long"

/-- A refused request on a path. -/
structure FileFault where
  why : FileFlaw
  path : Path
  deriving DecidableEq, Repr

/-- The wording of a refusal. -/
def FileFault.message (f : FileFault) : String :=
  s!"[Errno {f.why.number}] {f.why.text}: {Text.quoted f.path.toString}"

/-- A place: the names that lead to it from the top, none of which is `.` or `..`. -/
abbrev Spot := List String

/-- The working directory, and what lies at which place. The working directory is there without an
entry, and so are the directories above it. -/
structure Files where
  directory : Spot := ["work"]
  entries : List (Spot × Node) := []
  deriving Repr

/-- The empty list stands for no files at all. -/
instance {α : Type} : CoeDep (List α) [] Files := ⟨{}⟩

namespace Files

/-- The spot of a directory that is there without an entry. -/
def isTop (files : Files) (s : Spot) : Bool :=
  s.isPrefixOf files.directory

/-- What lies at a spot. -/
def node? (files : Files) (s : Spot) : Option Node :=
  if files.isTop s then some .directory else files.entries.lookup s

/-- Take away what lies at a spot. -/
def remove (files : Files) (s : Spot) : Files :=
  { files with entries := files.entries.filter fun f => f.1 != s }

/-- Put a node at a spot. -/
def put (files : Files) (s : Spot) (n : Node) : Files :=
  { files with entries := (s, n) :: (files.remove s).entries }

/-- Longest name of one file, in bytes. -/
def longestName : Nat := 255

/-- Longest path, in bytes. -/
def longestPath : Nat := 4095

/-- One step of `locate` from a spot. From the top, `..` goes nowhere else. -/
def step (files : Files) (s : Spot) (name : String) : Except FileFlaw Spot :=
  match node? files s with
  | none => .error .notFound
  | some .directory =>
    if name == ".." then .ok s.dropLast
    else if longestName < name.utf8ByteSize then .error .nameTooLong
    else .ok (s ++ [name])
  | some _ => .error .notADirectory

/-- Where a path starts. -/
def start (files : Files) (p : Path) : Spot :=
  if p.isAbsolute then [] else files.directory

/-- The spot a path leads to. All directories on the way have to exist, the last name need not. -/
def locate (files : Files) (p : Path) : Except FileFlaw Spot :=
  if longestPath < p.toString.utf8ByteSize then .error .nameTooLong
  else p.names.foldlM (step files) (files.start p)

/-- What a path leads to. -/
def lookup (files : Files) (p : Path) : Except FileFlaw Node :=
  match locate files p with
  | .error e => .error e
  | .ok s =>
    match node? files s with
    | some n => .ok n
    | none => .error .notFound

/-- Whether something is there. A name that is too long cannot even be asked for. -/
def exists? (files : Files) (p : Path) : Except FileFault Bool :=
  match lookup files p with
  | .ok _ => .ok true
  | .error .nameTooLong => .error ⟨.nameTooLong, p⟩
  | .error _ => .ok false

/-- The bytes of a file. -/
def readBytes (files : Files) (p : Path) : Except FileFault (List UInt8) :=
  match lookup files p with
  | .ok (.file bytes) => .ok bytes
  | .ok .directory => .error ⟨.isADirectory, p⟩
  | .ok (.database _) => .ok []
  | .error why => .error ⟨why, p⟩

/-- Make one directory unless it is there; `last` tells whether more names follow. -/
def makeDir (files : Files) (p : Path) (last : Bool) : Except FileFault Files :=
  match locate files p with
  | .error why => .error ⟨why, p⟩
  | .ok s =>
    match node? files s with
    | none => .ok (put files s .directory)
    | some .directory => .ok files
    | some _ => .error ⟨if last then .exists else .notADirectory, p⟩

/-- Make a directory and those above it, from the top down. -/
def makeDirs (files : Files) (p : Path) : Except FileFault Files :=
  (List.range p.names.length).foldlM
    (fun files i => makeDir files { p with names := p.names.take (i + 1) }
      (i + 1 == p.names.length))
    files

/-- Write a node, with the directories above it. -/
def write (files : Files) (p : Path) (n : Node) : Except FileFault Files := do
  let files ← makeDirs files p.parent
  match locate files p with
  | .error why => .error ⟨why, p⟩
  | .ok s =>
    match node? files s with
    | some .directory => .error ⟨.isADirectory, p⟩
    | _ => .ok (put files s n)

/-- Delete a file. -/
def delete (files : Files) (p : Path) : Except FileFault Files :=
  match locate files p with
  | .error why => .error ⟨why, p⟩
  | .ok s =>
    match node? files s with
    | none => .error ⟨.notFound, p⟩
    | some .directory => .error ⟨.isADirectory, p⟩
    | some _ => .ok (files.remove s)

end Files

end Tutor
