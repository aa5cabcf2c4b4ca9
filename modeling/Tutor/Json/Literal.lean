import Tutor.Json.Writer
import Tutor.Text.Quoted

namespace Tutor.Json

/-!
# Values in messages

How messages show a value: `None`, `True` and `False` for the constants, quoted strings, brackets
around lists and braces around objects.

* `literal` is this text;
* `text` is the same for all values but strings, which stand for themselves.
-/

/-- Doubles in messages differ from JSON in the names of the special values. -/
def literalStyle : Decimal.NumeralStyle :=
  { numeralStyle with nan := "nan", infinity := "inf" }

mutual

/-- A value as messages show it. -/
def literalChars : Json → List Char
  | .null => "None".toList
  | .bool true => "True".toList
  | .bool false => "False".toList
  | .int n => Text.wholeChars n
  | .float x => Decimal.numeral literalStyle x
  | .str s => Text.quotedChars s.toList
  | .arr items => '[' :: (separated [',', ' '] (literalItems items) ++ [']'])
  | .obj members => '\x7b' :: (separated [',', ' '] (literalMembers members) ++ ['\x7d'])

/-- The items of an array in a message. -/
def literalItems : List Json → List (List Char)
  | [] => []
  | j :: r => literalChars j :: literalItems r

/-- The members of an object in a message. -/
def literalMembers : List (String × Json) → List (List Char)
  | [] => []
  | (k, j) :: r => (Text.quotedChars k.toList ++ ':' :: ' ' :: literalChars j) :: literalMembers r

end

/-- A value as messages show it. -/
def literal (j : Json) : String :=
  String.ofList j.literalChars

/-- A value as plain text: a string stands for itself. -/
def text : Json → String
  | .str s => s
  | j => j.literal

/-- A list of strings as messages show it. -/
def literalStrings (l : List String) : String :=
  (ofStrings l).literal

end Tutor.Json
