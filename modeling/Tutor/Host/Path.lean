namespace Tutor

/-!
# Paths

A path is a root and the names below it. Reading a path drops empty names and `.`, so that each
path has one spelling; `..` stays, for what it means depends on the files.

* `Path.ofString` reads a path, `Path.toString` writes it;
* `Path.join` goes from one path along another, `Path.parent` drops the last name.
-/

/-- A path from the working directory (no root) or from the top of the file system. -/
structure Path where
  root : String
  names : List String
  deriving DecidableEq, Repr, Inhabited

namespace Path

/-- The root a text starts with; exactly two slashes are a root of their own. -/
def rootOf : List Char → String
  | '/' :: '/' :: '/' :: _ => "/"
  | '/' :: '/' :: _ => "//"
  | '/' :: _ => "/"
  | _ => ""

/-- The pieces of a text between slashes. -/
def pieces (s : List Char) : List String :=
  (s.splitBy fun a b => a != '/' && b != '/').filterMap fun piece =>
    if piece.contains '/' then none else some (String.ofList piece)

/-- Read a path. -/
def ofString (s : String) : Path :=
  { root := rootOf s.toList, names := (pieces s.toList).filter (· != ".") }

/-- Write a path; the working directory itself is `.`. -/
def toString (p : Path) : String :=
  if p.root.isEmpty && p.names.isEmpty then "." else p.root ++ "/".intercalate p.names

/-- Go along a second path, which starts over if it has a root. -/
def join (p q : Path) : Path :=
  if q.root.isEmpty then { p with names := p.names ++ q.names } else q

/-- The directory a path lies in. -/
def parent (p : Path) : Path :=
  { p with names := p.names.dropLast }

/-- There is a null character in the path, which no file system takes. -/
def hasNull (p : Path) : Bool :=
  p.names.any fun name => name.toList.contains '\x00'

/-- The path starts at the top of the file system. -/
def isAbsolute (p : Path) : Bool :=
  !p.root.isEmpty

end Path

end Tutor
