import Tutor.Course.Bundled
import Tutor.Fault.Basic
import Tutor.Host.Path

namespace Tutor

/-!
# The catalog

The lessons in use, where they came from, and what went wrong on the way.

* `Catalog.named` are the lessons of a name; a name that several lessons share stands for none;
* `Catalog.lesson?` and `Catalog.task?` look lessons and tasks up.
-/

/-- The lessons in use. -/
structure Catalog where
  lessons : List Lesson
  warnings : List String
  /-- The file they were read from; none for the bundled ones. -/
  source : Option Path
  deriving Repr

namespace Catalog

/-- No lessons. -/
def empty : Catalog := ⟨[], [], none⟩

/-- The lessons of a name. -/
def named (c : Catalog) (name : String) : List Lesson :=
  c.lessons.filter fun l => l.name == name

/-- The lesson of a name, if there is exactly one. -/
def lesson? (c : Catalog) (name : String) : Option Lesson :=
  match c.named name with
  | [l] => some l
  | _ => none

/-- A task of a lesson. -/
def task? (c : Catalog) (lesson task : String) : Option Task :=
  (c.lesson? lesson).bind fun l => l.practice.get? task

end Catalog

end Tutor
