import Tutor.Pattern.Flaw
import Tutor.Pattern.Node

namespace Tutor.Pattern

/-!
# A place in a pattern

Patterns are read token by token: a character, or a backslash with the character after it. The
reader looks one token ahead, so a backslash that ends the pattern is found as soon as the token
before it is passed.

* `Cursor` is what is left to read, with what is known from what was read;
* `Cursor.next` is the token ahead, `skip` passes it, `accept` passes it if it is a given one;
* `takeSome` and `takeUntil` collect tokens.
-/

/-- A place in a pattern and what has been read before it. -/
structure Cursor where
  /-- The characters left, from the token ahead on. -/
  left : List Char
  /-- Length of the whole pattern. -/
  size : Nat
  /-- The widths of the groups that are closed, from the first group on. -/
  widths : List (Option Width)
  /-- The groups with names. -/
  names : List (String × Nat)
  /-- Inside a look-behind, the number the next group had at its start. -/
  lookBehind : Option Nat
  /-- Groups that conditions name by number, with the place of the name. -/
  conditions : List (Nat × Nat)
  /-- The options of the whole pattern. -/
  options : Options
  /-- The flags that the pattern sets for the whole of itself. -/
  flags : List Flag

namespace Cursor

/-- Number of characters read. -/
def position (p : Cursor) : Nat :=
  p.size - p.left.length

/-- A flaw that shows `back` characters before this place. -/
def fail {α : Type} (p : Cursor) (why : Flaw) (back : Nat) : Except Stop α :=
  .error (.fault ⟨why, some (p.position - back)⟩)

/-- The token ahead; empty at the end. -/
def next (p : Cursor) : List Char :=
  match p.left with
  | '\\' :: c :: _ => ['\\', c]
  | c :: _ => [c]
  | [] => []

/-- The token ahead is a given character. -/
def nextIs (p : Cursor) (c : Char) : Bool :=
  p.next == [c]

/-- The place with `left` characters left, unless they are a lone backslash. -/
def moveTo (p : Cursor) (left : List Char) : Except Stop Cursor :=
  if left = ['\\'] then .error (.fault ⟨.danglingEscape, some (p.size - 1)⟩)
  else .ok { p with left := left }

/-- Pass the token ahead. -/
def skip (p : Cursor) : Except Stop Cursor :=
  p.moveTo (p.left.drop p.next.length)

/-- Pass the token ahead and return it. -/
def take (p : Cursor) : Except Stop (List Char × Cursor) :=
  p.skip.map fun q => (p.next, q)

/-- Pass the token ahead if it is `c`. -/
def accept (p : Cursor) (c : Char) : Except Stop (Bool × Cursor) :=
  if p.nextIs c then p.skip.map fun q => (true, q) else .ok (false, p)

/-- Pass at most `limit` tokens that are characters of a kind. -/
def takeSome (p : Cursor) (kind : Char → Bool) : (limit : Nat) → Except Stop (List Char × Cursor)
  | 0 => .ok ([], p)
  | limit + 1 =>
    match p.next with
    | [c] =>
      if kind c then
        p.skip.bind fun q => (q.takeSome kind limit).map fun (cs, r) => (c :: cs, r)
      else .ok ([], p)
    | _ => .ok ([], p)

/-- Pass all tokens up to the character `close` and that one too; `found` is what was passed. -/
def takeUntilFrom (close : Char) (what : String) (p : Cursor) (found : List Char) :
    (fuel : Nat) → Except Stop (List Char × Cursor)
  | 0 => p.fail (.missing what) 0
  | fuel + 1 =>
    match p.next with
    | [] =>
      if found.isEmpty then p.fail (.missing what) 0
      else p.fail (.missing s!"{close}, unterminated name") found.length
    | t =>
      p.skip.bind fun q =>
        if t == [close] then
          if found.isEmpty then q.fail (.missing what) 1 else .ok (found, q)
        else takeUntilFrom close what q (found ++ t) fuel

/-- The name before the character `close`, which is passed too. -/
def takeUntil (p : Cursor) (close : Char) (what : String) : Except Stop (List Char × Cursor) :=
  takeUntilFrom close what p [] (p.left.length + 1)

/-! ### Groups -/

/-- Number the next group will have. -/
def groups (p : Cursor) : Nat :=
  p.widths.length + 1

/-- The width of a group that is closed. -/
def groupWidth? (p : Cursor) (number : Nat) : Option Width :=
  if number = 0 then none else (p.widths[number - 1]?).join

/-- Inside a look-behind, only groups from before it may be referred to. -/
def checkLookBehind (p : Cursor) (number : Nat) : Except Stop Unit :=
  match p.lookBehind with
  | none => .ok ()
  | some first =>
    if (p.groupWidth? number).isNone then p.fail .openGroup 0
    else if first ≤ number then p.fail .groupOfLookBehind 0
    else .ok ()

/-- The text of a group again, where the reference was written in `back` characters. -/
def reference (p : Cursor) (f : Folding) (number back : Nat) : Except Stop Node :=
  match p.groupWidth? number with
  | none => p.fail .openGroup back
  | some w => (p.checkLookBehind number).map fun _ => .again f number w

/-- Close a group. -/
def closeGroup (p : Cursor) (number : Nat) (w : Width) : Cursor :=
  { p with widths := p.widths.set (number - 1) (some w) }

end Cursor

end Tutor.Pattern
