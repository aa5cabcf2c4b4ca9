import Tutor.Shell.Script
import Tutor.Text.Hex

namespace Tutor.Shell

/-!
# Escapes

A backslash gives the next characters another meaning. Which ones depends on where the text stands:

* `EscapeRules` says what a backslash can do, with one value for each place;
* `readEscape` reads what follows one backslash, `unescape` a whole text.
-/

/-- What a backslash can do, besides the escapes that are understood everywhere. -/
structure EscapeRules where
  /-- Up to three octal digits give a byte. -/
  octal : Bool
  /-- A zero may stand before the three octal digits. -/
  zeroOctal : Bool
  /-- Quotes and question marks may be escaped. -/
  quotes : Bool
  /-- A `c` and a character give a control character. -/
  control : Bool
  /-- A `c` ends all output. -/
  stop : Bool

namespace EscapeRules

/-- Between `$'` and an apostrophe. -/
def literal : EscapeRules :=
  { octal := true, zeroOctal := false, quotes := true, control := true, stop := false }

/-- In the format of `printf`. -/
def format : EscapeRules :=
  { octal := true, zeroOctal := false, quotes := true, control := false, stop := false }

/-- In an argument that `printf` expands. -/
def argument : EscapeRules :=
  { octal := true, zeroOctal := true, quotes := true, control := false, stop := true }

/-- In an argument that `echo` expands. -/
def echo : EscapeRules :=
  { octal := false, zeroOctal := true, quotes := false, control := false, stop := true }

end EscapeRules

/-- The byte of a number. -/
def byte (n : Nat) : Char :=
  Char.ofNat (n % 256)

/-- The value of a digit in a base up to sixteen. -/
def digitValue (base : Nat) (c : Char) : Option Nat :=
  (Text.hexValue c).filter (· < base)

/-- Read at most `limit` digits in a base onto a number. -/
def readDigits (base : Nat) : (limit : Nat) → Nat → Bytes → Nat × Bytes
  | 0, n, s => (n, s)
  | _ + 1, n, [] => (n, [])
  | limit + 1, n, c :: r =>
    match digitValue base c with
    | some d => readDigits base limit (base * n + d) r
    | none => (n, c :: r)

/-- The text starts with a digit in a base. -/
def startsWithDigit (base : Nat) (s : Bytes) : Bool :=
  (s.head?.bind (digitValue base)).isSome

/-- Escapes of one letter. -/
def letterEscapes : List (Char × Nat) :=
  [('a', 7), ('b', 8), ('e', 27), ('E', 27), ('f', 12), ('n', 10), ('r', 13), ('t', 9), ('v', 11),
   ('\\', 92)]

/-- Hexadecimal digits in upper case. -/
def upperHex (width n : Nat) : Bytes :=
  (Text.hexPadded width n).map Char.toUpper

/-- A character by its number. Only ASCII has characters of its own; the others stay escaped. -/
def numberedChar (n : Nat) : Bytes :=
  if n < 128 then [byte n]
  else if n < 65536 then '\\' :: 'u' :: upperHex 4 n
  else '\\' :: 'U' :: upperHex 8 n

/-- What follows a backslash. -/
inductive Escaped
  /-- It means a text. -/
  | text (meaning rest : Bytes)
  /-- It ends all output. -/
  | stop
  /-- Digits should follow the letter. -/
  | lacksDigits (letter : Char) (rest : Bytes)

/-- Read what follows a backslash. -/
def readEscape (rules : EscapeRules) : Bytes → Escaped
  | [] => .text ['\\'] []
  | c :: r =>
    match letterEscapes.lookup c with
    | some n => .text [byte n] r
    | none =>
      if rules.quotes && ['\'', '"', '?'].contains c then .text [c] r
      else if c == 'x' then
        if startsWithDigit 16 r then
          let (n, r) := readDigits 16 2 0 r
          .text [byte n] r
        else .lacksDigits c r
      else if c == 'u' || c == 'U' then
        if startsWithDigit 16 r then
          let (n, r) := readDigits 16 (if c == 'u' then 4 else 8) 0 r
          .text (numberedChar n) r
        else .lacksDigits c r
      else if rules.zeroOctal && c == '0' then
        let (n, r) := readDigits 8 3 0 r
        .text [byte n] r
      else if rules.octal && startsWithDigit 8 (c :: r) then
        let (n, r) := readDigits 8 3 0 (c :: r)
        .text [byte n] r
      else if rules.stop && c == 'c' then .stop
      else
        match rules.control && c == 'c', r with
        | true, d :: r => .text [byte (d.toUpper.toNat ^^^ 64)] r
        | _, _ => .text ['\\', c] r

/-- A text without its escapes. -/
structure Unescaped where
  text : Bytes
  /-- An escape has ended all output. -/
  stopped : Bool
  /-- The letters that lack digits. -/
  lacking : List Char

/-- Put a text before. -/
def Unescaped.after (s : Bytes) (u : Unescaped) : Unescaped :=
  { u with text := s ++ u.text }

/-- Resolve the escapes of a text of at most `fuel` characters. -/
def unescapeWith (rules : EscapeRules) : (fuel : Nat) → Bytes → Unescaped
  | 0, s => ⟨s, false, []⟩
  | _, [] => ⟨[], false, []⟩
  | fuel + 1, '\\' :: r =>
    match readEscape rules r with
    | .text s rest => (unescapeWith rules fuel rest).after s
    | .stop => ⟨[], true, []⟩
    | .lacksDigits c rest =>
      let u := (unescapeWith rules fuel rest).after ['\\', c]
      { u with lacking := c :: u.lacking }
  | fuel + 1, c :: r => (unescapeWith rules fuel r).after [c]

/-- Resolve the escapes of a text. -/
def unescape (rules : EscapeRules) (s : Bytes) : Unescaped :=
  unescapeWith rules s.length s

end Tutor.Shell
