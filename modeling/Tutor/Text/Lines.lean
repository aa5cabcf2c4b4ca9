namespace Tutor.Text

/-!
# Lines

Three notions of a line are in use:

* `unifyNewlines` turns the line ends of a file (`\r\n` and `\r`) into `\n`;
* `linesOf` cuts a text at every character that Unicode or ASCII lets end a line;
* `cutAtNewline` cuts a text at `\n` alone.
-/

/-- Carriage return with or without a newline becomes a newline. -/
def unifyNewlines : List Char → List Char
  | [] => []
  | '\r' :: '\n' :: r => '\n' :: unifyNewlines r
  | c :: r => (if c = '\r' then '\n' else c) :: unifyNewlines r

/-- Line feed, vertical tab, form feed, carriage return, the information separators four to two,
next line, and the line and paragraph separators. -/
def endsLine (c : Char) : Bool :=
  let n := c.toNat
  (10 ≤ n && n ≤ 13) || (28 ≤ n && n ≤ 30) || n == 133 || n == 8232 || n == 8233

/-- The lines of a text without their ends; an end that closes the text opens no further line. -/
def linesOf (s : List Char) : List (List Char) :=
  go [] s
where
  /-- `line` holds the current line in reverse. -/
  go (line : List Char) : List Char → List (List Char)
    | [] => if line.isEmpty then [] else [line.reverse]
    | '\r' :: '\n' :: r => line.reverse :: go [] r
    | c :: r => if endsLine c then line.reverse :: go [] r else go (c :: line) r

/-- The pieces of a text between newlines; always at least one. -/
def cutAtNewline : List Char → List (List Char)
  | [] => [[]]
  | c :: r =>
    if c = '\n' then [] :: cutAtNewline r
    else
      match cutAtNewline r with
      | [] => [[c]]
      | l :: ls => (c :: l) :: ls

end Tutor.Text
