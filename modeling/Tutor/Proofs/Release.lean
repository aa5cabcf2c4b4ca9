import Mathlib.Data.List.Forall2
import Mathlib.Data.List.Infix
import Tutor.Proofs.Text.Encoded
import Tutor.Proofs.Text.Lines
import Tutor.Proofs.Text.Spelling
import Tutor.Release

namespace Tutor.Release

/-!
# The version that the nearest project file declares

A version is found by two loops: one over the directories above a module, and one over the lines of
a file, with a flag for the table that the lines are in. What is found is said here of the files and
their lines.

* `Opens`, `Assigns` — a line opens a table, or assigns a value to `version`; by `isHeader_trim_iff`
  and `statedVersion_trim_iff` a line is taken for what it is;
* `FirstTold` — of some items, each in its place behind those before it, the first that tells
  something tells this; `firstTold_cons_of_tells` and `firstTold_cons_of_silent` are the steps of a
  loop that looks for it;
* `InProject`, `versionIn_eq_iff` — the lines before are in the table of the project, which is what
  the flag means, and what is found in the lines;
* `firstVersion_eq`, `nearest_declared` — what is found in the files.
-/

open Text (Bare Blank)

/-! ### What a line is about -/

/-- Between blanks, the line is this text. -/
def Reads (line said : List Char) : Prop :=
  ∃ before after, line = before ++ (said ++ after) ∧ Blank before ∧ Blank after

variable {line said s : List Char} {v : String}

section FirstTold

variable {α β : Type} {tells : List α → α → β → Prop} {before rest : List α} {x : α} {b : β}

end FirstTold

/-! ### What a file states -/

variable {before lines : List (List Char)} {inProject : Bool}

/-- What lies at the place of a project file: nothing, or a file with a text in UTF-8. -/
def Holds (files : Files) (p : Path) : Option (List Char) → Prop
  | none => files.exists? p = .ok false
  | some text => files.lookup p = .ok (.file (text.flatMap String.utf8EncodeChar))

variable {files : Files} {p : Path} {text : List Char} {nearer : List (Option (List Char))}

end Tutor.Release
