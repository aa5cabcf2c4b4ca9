import Tutor.Table

namespace Tutor.Shell

/-!
# Scripts

What shell code says, once it is read.

* `Word` is a list of pieces: text that means itself, and text that is worked out when the command
  runs;
* `Redirection` connects a channel of a command;
* `Command` is a command, simple or compound.

The shell works on bytes. Here a byte is the character of the same number.
-/

/-- A text as the shell holds it: characters below 256, one for each byte. -/
abbrev Bytes := List Char

/-- A part of a word. `quoted` tells whether it stands between quotation marks. -/
inductive Piece
  /-- A character outside quotes. -/
  | plain (c : Char)
  /-- A text inside quotes, possibly empty. -/
  | quoted (text : Bytes)
  /-- A parameter with what is done to it: what stands between `${` and the brace. -/
  | parameter (quoted : Bool) (text : Bytes)
  /-- An arithmetic expression. -/
  | arithmetic (quoted : Bool) (text : Bytes)
  /-- Code whose output is put in place; `back` tells that it stands between backticks. -/
  | code (quoted back : Bool) (text : Bytes)
  deriving DecidableEq, Repr

/-- A word. -/
abbrev Word := List Piece

/-- How a redirection connects a channel. -/
inductive Link
  | read
  | write
  | append
  /-- Output and errors to one file. -/
  | writeBoth
  | appendBoth
  /-- To where another channel leads. -/
  | duplicate
  /-- The target itself is the input. -/
  | text
  deriving DecidableEq, Repr

/-- A redirection of a channel; without a number it is the usual one of its link. -/
structure Redirection where
  number : Option Nat
  link : Link
  target : Word
  deriving DecidableEq, Repr

/-- An assignment to a variable; `appended` if the value is put after the old one. -/
structure Assignment where
  name : Bytes
  appended : Bool
  value : Word
  deriving DecidableEq, Repr

/-- A condition between `[[` and `]]`. -/
inductive Condition
  | unary (operator : Bytes) (operand : Word)
  | binary (operator : Bytes) (left right : Word)
  | negated (c : Condition)
  | both (a b : Condition)
  | either (a b : Condition)
  deriving Repr

/-- A command. `line` is the line that messages name. -/
inductive Command
  | nothing
  | simple (line : Nat) (assignments : List Assignment) (words : List Word)
    (redirections : List Redirection)
  | sequence (first second : Command)
  | both (first second : Command)
  | either (first second : Command)
  | negated (body : Command)
  | pipe (first second : Command)
  | subshell (body : Command)
  | branch (condition yes no : Command)
  /-- Repeat the body while the condition succeeds, or until it does. -/
  | loop (isUntil : Bool) (condition body : Command)
  /-- Repeat the body for each word; without words, for each argument of the script. -/
  | each (line : Nat) (name : Bytes) (words : Option (List Word)) (body : Command)
  /-- The loop with a start, a condition and a step, all arithmetic. -/
  | count (line : Nat) (start condition step : Bytes) (body : Command)
  | select (line : Nat) (subject : Word) (clauses : List (List Word × Command))
  | arithmetic (line : Nat) (text : Bytes)
  | test (line : Nat) (condition : Condition)
  | define (name : Bytes) (body : Command)
  | redirected (line : Nat) (body : Command) (redirections : List Redirection)
  | background (body : Command)

end Tutor.Shell
