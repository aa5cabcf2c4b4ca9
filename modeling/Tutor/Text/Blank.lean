namespace Tutor.Text

/-!
# Blank characters

Which characters count as blank, and what it means to trim a text.

* `isBlank` is the class of characters with the property White_Space or with the bidirectional
  class of a separator; `\s` in a pattern means the same class.
* `trim` drops blanks at both ends and keeps those inside.
-/

/-- Blank within ASCII, as patterns restricted to ASCII see it. -/
def isAsciiBlank (c : Nat) : Bool :=
  c == 32 || (9 ≤ c && c ≤ 13)

/-- A white space or separator character. -/
def isBlank (c : Nat) : Bool :=
  (9 ≤ c && c ≤ 13) || (28 ≤ c && c ≤ 32) || c == 133 || c == 160 || c == 5760 ||
    (8192 ≤ c && c ≤ 8202) || c == 8232 || c == 8233 || c == 8239 || c == 8287 || c == 12288

/-- A text without the blanks before its first other character. -/
def trimLeft (s : List Char) : List Char :=
  s.dropWhile fun c => isBlank c.toNat

/-- A text without the blanks after its last other character. -/
def trimRight (s : List Char) : List Char :=
  (trimLeft s.reverse).reverse

/-- A text without the blanks at its ends. -/
def trim (s : List Char) : List Char :=
  trimRight (trimLeft s)

/-- `trim` on strings. -/
def trimmed (s : String) : String :=
  String.ofList (trim s.toList)

end Tutor.Text
