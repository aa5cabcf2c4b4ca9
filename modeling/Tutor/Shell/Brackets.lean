import Tutor.Shell.Script

namespace Tutor.Shell

/-!
# Brackets

Where a quoted or bracketed part of shell code ends.

* `Bracket` lists what can be open;
* `closing` finds the end of the outermost open bracket.
-/

/-- Something that is open. A brace inside quotation marks takes apostrophes for plain text. -/
inductive Bracket
  | apostrophe
  | quotation
  | backtick
  | parenthesis
  | brace (quoted : Bool)
  deriving DecidableEq, Repr

/-- What closes it. -/
def Bracket.closer : Bracket → Char
  | .apostrophe => '\''
  | .quotation => '"'
  | .backtick => '\x60'
  | .parenthesis => ')'
  | .brace _ => '}'

/-- What a character opens inside a bracket, given the next character. -/
def Bracket.opened (inside : Bracket) (c : Char) (next : Option Char) : Option Bracket :=
  match inside, c, next with
  | .apostrophe, _, _ | .backtick, _, _ => none
  | _, '\x60', _ => some .backtick
  | _, '$', some '(' => some .parenthesis
  | _, '$', some '{' => some (.brace (inside == .quotation || inside == .brace true))
  | .quotation, _, _ => none
  | _, '"', _ => some .quotation
  | .brace true, '\'', _ => none
  | _, '\'', _ => some .apostrophe
  | .parenthesis, '(', _ => some .parenthesis
  | _, _, _ => none

/-- The text up to the end of the outermost of the open brackets, of which the innermost comes
first, and the rest. If the text ends before, the innermost open bracket. `done` holds what has been
passed, newest first. -/
def closing : List Bracket → (done : Bytes) → Bytes → Except Bracket (Bytes × Bytes)
  | [], done, rest => .ok (done.reverse, rest)
  | top :: _, _, [] => .error top
  | top :: below, done, c :: rest =>
    if c == top.closer then closing below (if below.isEmpty then done else c :: done) rest
    else if c == '\\' && top != .apostrophe then
      match rest with
      | [] => .error top
      | d :: rest => closing (top :: below) (d :: c :: done) rest
    else
      match top.opened c rest.head? with
      | none => closing (top :: below) (c :: done) rest
      | some new =>
        if c == '$' then
          match rest with
          | [] => .error new
          | d :: rest => closing (new :: top :: below) (d :: c :: done) rest
        else closing (new :: top :: below) (c :: done) rest

/-- The text up to what closes a bracket that has just been opened, and the rest. -/
def Bracket.content (b : Bracket) (text : Bytes) : Except Bracket (Bytes × Bytes) :=
  closing [b] [] text

end Tutor.Shell
