import Tutor.Text.Hex
import Tutor.Text.Printable

namespace Tutor.Text

/-!
# Quoted text

How messages quote a text: between apostrophes, or between quotation marks when it holds an
apostrophe and no quotation mark. The quote in use, the backslash and everything unprintable is
escaped.

* `quoteMark` chooses the quote;
* `escaped` writes one character;
* `quoted` writes the whole text.
-/

/-- The quote a text is put in. -/
def quoteMark (s : List Char) : Char :=
  if s.contains '\'' && !s.contains '"' then '"' else '\''

/-- One character inside quotes `q`. -/
def escaped (q c : Char) : List Char :=
  let n := c.toNat
  if c = q ∨ c = '\\' then ['\\', c]
  else if c = '\t' then ['\\', 't']
  else if c = '\n' then ['\\', 'n']
  else if c = '\r' then ['\\', 'r']
  else if isPrintable n then [c]
  else if n < 256 then '\\' :: 'x' :: hexPadded 2 n
  else if n < 65536 then '\\' :: 'u' :: hexPadded 4 n
  else '\\' :: 'U' :: hexPadded 8 n

/-- A text in quotes, on one line and in printable characters. -/
def quotedChars (s : List Char) : List Char :=
  let q := quoteMark s
  q :: (s.flatMap (escaped q) ++ [q])

/-- `quotedChars` on strings. -/
def quoted (s : String) : String :=
  String.ofList (quotedChars s.toList)

end Tutor.Text
