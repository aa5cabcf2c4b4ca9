import Tutor.Text.Case

namespace Tutor.Shell

/-!
# Quoting for the shell

A word is put into apostrophes unless all its characters are safe. An apostrophe inside the word is
written between quotation marks, outside the apostrophes.
-/

/-- A character that means itself outside quotes. -/
def isSafe (c : Char) : Bool :=
  let n := c.toNat
  Text.isAsciiLetter n || (48 ≤ n && n ≤ 57) || "_@%+=:,./-".toList.contains c

/-- One character inside apostrophes. -/
def quotedChar (c : Char) : List Char :=
  if c = '\'' then ['\'', '"', '\'', '"', '\''] else [c]

/-- A word as the shell reads it back. -/
def quoteChars (s : List Char) : List Char :=
  if !s.isEmpty && s.all isSafe then s else '\'' :: (s.flatMap quotedChar ++ ['\''])

/-- `quoteChars` on strings. -/
def quote (s : String) : String :=
  String.ofList (quoteChars s.toList)

end Tutor.Shell
