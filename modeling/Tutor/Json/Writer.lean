import Tutor.Decimal.Shortest
import Tutor.Json.Basic
import Tutor.Text.Hex
import Tutor.Text.Whole

namespace Tutor.Json

/-!
# Writing JSON

JSON text in ASCII on one line, with `", "` between items and `": "` after keys.

* `escapedChar` writes one character of a string;
* `write` writes a value, `writeSorted` one with the members of objects in the order of their keys.
-/

/-- Doubles are positional while the point stands at most three zeros before the first digit and at
most sixteen digits after its start. -/
def numeralStyle : Decimal.NumeralStyle :=
  { leastPoint := -3, greatestPoint := 16, nan := "NaN", infinity := "Infinity" }

/-- Four hexadecimal digits after `\u`. -/
def unitEscape (n : Nat) : List Char :=
  '\\' :: 'u' :: Text.hexPadded 4 n

/-- A character of a string: printable ASCII as it is, all else escaped, past U+FFFF as a pair of
surrogates. -/
def escapedChar (c : Char) : List Char :=
  let n := c.toNat
  if c = '"' then ['\\', '"']
  else if c = '\\' then ['\\', '\\']
  else if c = '\n' then ['\\', 'n']
  else if c = '\r' then ['\\', 'r']
  else if c = '\t' then ['\\', 't']
  else if n = 8 then ['\\', 'b']
  else if n = 12 then ['\\', 'f']
  else if 32 ≤ n ∧ n < 127 then [c]
  else if n < 65536 then unitEscape n
  else unitEscape (0xD800 + (n - 65536) / 1024) ++ unitEscape (0xDC00 + (n - 65536) % 1024)

/-- A string in quotes. -/
def stringChars (s : String) : List Char :=
  '"' :: (s.toList.flatMap escapedChar ++ ['"'])

/-- Pieces with a separator between them. -/
def separated (sep : List Char) : List (List Char) → List Char
  | [] => []
  | [x] => x
  | x :: y :: r => x ++ sep ++ separated sep (y :: r)

mutual

/-- The JSON text of a value. -/
def chars : Json → List Char
  | .null => "null".toList
  | .bool true => "true".toList
  | .bool false => "false".toList
  | .int n => Text.wholeChars n
  | .float x => Decimal.numeral numeralStyle x
  | .str s => stringChars s
  | .arr items => '[' :: (separated [',', ' '] (itemChars items) ++ [']'])
  | .obj members => '\x7b' :: (separated [',', ' '] (memberChars members) ++ ['\x7d'])

/-- The texts of the items of an array. -/
def itemChars : List Json → List (List Char)
  | [] => []
  | j :: r => chars j :: itemChars r

/-- The texts of the members of an object. -/
def memberChars : List (String × Json) → List (List Char)
  | [] => []
  | (k, j) :: r => (stringChars k ++ ':' :: ' ' :: chars j) :: memberChars r

end

/-- The JSON text of a value as a string. -/
def write (j : Json) : String :=
  String.ofList j.chars

/-- Table String in the order of their keys, by code points. -/
def sortMembers (members : List (String × Json)) : List (String × Json) :=
  members.mergeSort fun a b => !decide (b.1 < a.1)

mutual

/-- A value with the members of all its objects in the order of their keys. -/
def sorted : Json → Json
  | .arr items => .arr (sortedItems items)
  | .obj members => .obj (sortMembers (sortedMembers members))
  | j => j

/-- `sorted` on the items of an array. -/
def sortedItems : List Json → List Json
  | [] => []
  | j :: r => sorted j :: sortedItems r

/-- `sorted` on the members of an object. -/
def sortedMembers : List (String × Json) → List (String × Json)
  | [] => []
  | (k, j) :: r => (k, sorted j) :: sortedMembers r

end

/-- The JSON text of a value with sorted members. -/
def writeSorted (j : Json) : String :=
  j.sorted.write

end Tutor.Json
