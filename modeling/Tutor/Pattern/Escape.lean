import Tutor.Pattern.CharNames
import Tutor.Pattern.Cursor
import Tutor.Text.Hex

namespace Tutor.Pattern

/-!
# Escapes

What a backslash and the character after it mean.

* `charEscape?` and `classEscape?` are the escapes for one character and for a class;
* `codeEscape` reads an escape that gives the code or the name of a character;
* `setEscape` is an escape inside brackets, `escape` one outside.
-/

/-- Escapes that stand for one character everywhere. -/
def charEscape? : Char → Option Nat
  | 'a' => some 7
  | 'b' => some 8
  | 'f' => some 12
  | 'n' => some 10
  | 'r' => some 13
  | 't' => some 9
  | 'v' => some 11
  | '\\' => some 92
  | _ => none

/-- Escapes that stand for a class. -/
def classEscape? : Char → Option Member
  | 'd' => some (.kind .digit false)
  | 'D' => some (.kind .digit true)
  | 's' => some (.kind .space false)
  | 'S' => some (.kind .space true)
  | 'w' => some (.kind .word false)
  | 'W' => some (.kind .word true)
  | _ => none

/-- Escapes that stand for a place. -/
def anchorEscape? (ascii : Bool) : Char → Option Anchor
  | 'A' => some .textStart
  | 'Z' => some .textStop
  | 'b' => some (.boundary ascii false)
  | 'B' => some (.boundary ascii true)
  | _ => none

/-- An octal digit. -/
def isOctal (c : Char) : Bool :=
  '0' ≤ c && c ≤ '7'

/-- A decimal digit within ASCII. -/
def isDecimal (c : Char) : Bool :=
  '0' ≤ c && c ≤ '9'

/-- A hexadecimal digit. -/
def isHex (c : Char) : Bool :=
  (Text.hexValue c).isSome

/-- The number that octal digits spell. -/
def octalNumber (s : List Char) : Nat :=
  s.foldl (fun n c => 8 * n + (c.toNat - 48)) 0

/-- The number that decimal digits spell. -/
def decimalNumber (s : List Char) : Nat :=
  s.foldl (fun n c => 10 * n + (c.toNat - 48)) 0

/-- The greatest code point. -/
def lastCode : Nat := 0x10FFFF

/-- The greatest number that is taken for a code point at all. -/
def lastSigned : Nat := 0x7FFFFFFF

/-- A flaw of an escape that was written as `written`. -/
def badEscape {α : Type} (p : Cursor) (written : List Char) : Except Stop α :=
  p.fail (.badEscape (String.ofList written)) written.length

/-- An escape of exactly `count` hexadecimal digits after its letter. -/
def hexEscape (p : Cursor) (letter : Char) (count : Nat) : Except Stop (Nat × Cursor) := do
  let (digits, p) ← p.takeSome isHex count
  let written := '\\' :: letter :: digits
  if digits.length < count then
    p.fail (.incompleteEscape (String.ofList written)) written.length
  else
    let n := (Text.hexNumber? digits).getD 0
    if n ≤ lastCode then .ok (n, p)
    else if lastSigned < n then .error .numberTooLarge
    else badEscape p written

/-- An escape by name: the name stands in braces. -/
def namedEscape (p : Cursor) : Except Stop (Nat × Cursor) := do
  let (opened, p) ← p.accept '\x7b'
  if !opened then p.fail (.missing "\x7b") 0
  else
    let (name, p) ← p.takeUntil '\x7d' "character name"
    match characterNamed? (String.ofList name) with
    | some n => .ok (n, p)
    | none => p.fail (.unknownCharacter (String.ofList name)) (name.length + 4)

/-- The escapes by code and by name; none if `c` starts no such escape. -/
def codeEscape (p : Cursor) (c : Char) : Option (Except Stop (Nat × Cursor)) :=
  match c with
  | 'x' => some (hexEscape p c 2)
  | 'u' => some (hexEscape p c 4)
  | 'U' => some (hexEscape p c 8)
  | 'N' => some (namedEscape p)
  | _ => none

/-- The last rule: a letter of ASCII has to have a meaning, other characters mean themselves. -/
def plainEscape (p : Cursor) (c : Char) : Except Stop (Nat × Cursor) :=
  if Text.isAsciiLetter c.toNat then badEscape p ['\\', c] else .ok (c.toNat, p)

/-- An octal number of at most 0o377. -/
def octalEscape (p : Cursor) (digits : List Char) : Except Stop (Nat × Cursor) :=
  let written := '\\' :: digits
  if 255 < octalNumber digits then
    p.fail (.octalTooLarge (String.ofList written)) written.length
  else .ok (octalNumber digits, p)

/-- An escape inside brackets, after its token. -/
def setEscape (p : Cursor) (c : Char) : Except Stop (Member × Cursor) :=
  match charEscape? c, classEscape? c with
  | some n, _ => .ok (.char n, p)
  | none, some m => .ok (m, p)
  | none, none =>
    let code : Except Stop (Nat × Cursor) :=
      match codeEscape p c with
      | some r => r
      | none =>
        if isOctal c then do
          let (digits, p) ← p.takeSome isOctal 2
          octalEscape p (c :: digits)
        else if isDecimal c then badEscape p ['\\', c]
        else plainEscape p c
    code.map fun (n, p) => (.char n, p)

/-- A backslash and a digit other than zero: three octal digits give a code, else one or two
digits name a group. -/
def digitEscape (p : Cursor) (f : Folding) (c : Char) : Except Stop (Node × Cursor) := do
  let (more, p) ← p.takeSome isDecimal 1
  let digits := c :: more
  let threeOctal :=
    more.length == 1 && digits.all isOctal && (match p.next with | [d] => isOctal d | _ => false)
  if threeOctal then
    let (third, p) ← p.take
    let (n, p) ← octalEscape p (digits ++ third)
    .ok (.one (.literal f n false), p)
  else
    let number := decimalNumber digits
    if number < p.groups then
      (p.reference f number (digits.length + 1)).map fun n => (n, p)
    else p.fail (.noGroup number) digits.length

/-- An escape outside brackets, after its token. -/
def escape (p : Cursor) (o : Options) (c : Char) : Except Stop (Node × Cursor) :=
  let f := Folding.of o
  let literal (r : Except Stop (Nat × Cursor)) : Except Stop (Node × Cursor) :=
    r.map fun (n, p) => (.one (.literal f n false), p)
  match anchorEscape? o.ascii c, classEscape? c, charEscape? c with
  | some a, _, _ => .ok (.anchor a, p)
  | none, some m, _ => .ok (.one (.set f o.ascii ⟨false, [m]⟩), p)
  | none, none, some n => literal (.ok (n, p))
  | none, none, none =>
    match codeEscape p c with
    | some r => literal r
    | none =>
      if c = '0' then
        literal ((p.takeSome isOctal 2).map fun (digits, p) => (octalNumber digits, p))
      else if isDecimal c then digitEscape p f c
      else literal (plainEscape p c)

end Tutor.Pattern
