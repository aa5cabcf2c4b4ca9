import Tutor.Course.Loading
import Tutor.Text.Blank

namespace Tutor.Release

/-!
# The version of the program

A program that runs from its sources finds its version in the nearest project file above it that
states one.

* `versionIn` is the version that the lines of a project file state in the table `[project]`;
* `nearest` goes through the directories above a module.
-/

/-- The text before a second quotation mark, if it is not empty and nothing but blanks follow. -/
def quotedValue (s : List Char) : Option String :=
  match s with
  | '"' :: r =>
    let value := r.takeWhile (· != '"')
    match r.dropWhile (· != '"') with
    | '"' :: rest =>
      if value.isEmpty || !rest.all (fun c => Text.isBlank c.toNat) then none
      else some (String.ofList value)
    | _ => none
  | _ => none

/-- What follows a beginning. -/
def dropStart? (start s : List Char) : Option (List Char) :=
  if start.isPrefixOf s then some (s.drop start.length) else none

/-- The version that a line states; blanks may stand around the equals sign. -/
def statedVersion (line : List Char) : Option String := do
  let rest ← dropStart? "version".toList line
  let rest ← dropStart? ['='] (Text.trimLeft rest)
  quotedValue (Text.trimLeft rest)

/-- A line that opens a table. -/
def isHeader (line : List Char) : Bool :=
  line.head? == some '[' && line.getLast? == some ']'

/-- The first version stated in the table `[project]`; `inProject` tells whether the lines before
were in it. -/
def versionIn (inProject : Bool) : List (List Char) → Option String
  | [] => none
  | line :: rest =>
    let line := Text.trim line
    if isHeader line then versionIn (line == "[project]".toList) rest
    else if inProject then
      match statedVersion line with
      | some v => some v
      | none => versionIn true rest
    else versionIn false rest

/-- The text of a project file. -/
def projectText (files : Files) (p : Path) : Except Failure (List Char) :=
  match files.readBytes p with
  | .error f => .error (.file f)
  | .ok bytes =>
    match Text.decode bytes with
    | .error f => .error (.badBytes f)
    | .ok text => .ok (Text.unifyNewlines text)

/-- The version that the first of several project files with a version states. -/
def firstVersion (files : Files) : List Path → Except Failure (Option String)
  | [] => .ok none
  | p :: rest => do
    if ← (files.exists? p).mapError .file then
      match versionIn false (Text.linesOf (← projectText files p)) with
      | some v => .ok (some v)
      | none => firstVersion files rest
    else firstVersion files rest

/-- The names of a path, led back at each `..`. Where nothing is left to lead back from, a path from
the top stays there, and one from the working directory leaves it. -/
def resolved (p : Path) : List String :=
  p.names.foldl
    (fun done n =>
      if n != ".." then done ++ [n]
      else if !done.all (· == "..") then done.dropLast
      else if p.isAbsolute then done
      else done ++ [n])
    []

/-- The directories above a place whose names are given from the last one on, the nearest first.
They end at the top, at the working directory, or at the last directory that a path goes up to from
it. -/
def directoriesAbove : List String → List (List String)
  | [] => []
  | n :: rest => if n == ".." then [] else rest.reverse :: directoriesAbove rest

/-- The project files in the directories above a module, the nearest first. -/
def projectFiles (source : Path) : List Path :=
  (directoriesAbove (resolved source).reverse).map fun dir =>
    { source with names := dir ++ ["pyproject.toml"] }

/-- The version of the program with a given module. -/
def nearest (files : Files) (source : Path) : Except Failure (Option String) :=
  firstVersion files (projectFiles source)

end Tutor.Release
