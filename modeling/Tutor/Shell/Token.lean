import Tutor.Shell.Word

namespace Tutor.Shell

/-!
# Tokens

* `Source` is the code that is still to be read, with the place in it;
* `Token` is a word, an operator, a redirection or the end of a line;
* `nextToken` reads one;
* `Flaw` is what stops the reading, and `Refused.message` words it.
-/

/-- Why code cannot be read. -/
inductive Flaw
  /-- A token that is out of place. -/
  | unexpected (token : Bytes)
  | unclosed (u : Unclosed)
  /-- The code ends in the middle of a command. -/
  | ended
  deriving DecidableEq, Repr

/-- Why code cannot be read, and where. `inner` tells that the flaw lies in code that was to be
replaced by its output. -/
structure Refused where
  why : Flaw
  line : Nat
  /-- The text of the line. -/
  text : Bytes
  inner : Bool
  deriving DecidableEq, Repr

/-- The code that is still to be read. -/
structure Source where
  rest : Bytes
  /-- The number of the current line. -/
  line : Nat
  /-- The part of the current line that has been read. -/
  before : Bytes
  /-- How many lines of texts in place come after the current line. -/
  skipped : Nat
  /-- Warnings, the newest first: the line where the warning arises, and its text. -/
  warnings : List (Nat × Bytes)

/-- Code whose first line has a number. -/
def Source.start (line : Nat) (code : Bytes) : Source :=
  ⟨code, line, [], 0, []⟩

/-- A part of code is read. -/
def Source.pass (s : Source) (rest : Bytes) : Source :=
  let passed := s.rest.take (s.rest.length - rest.length)
  let newlines := passed.count '\n'
  { s with
    rest := rest
    line := s.line + newlines + if 0 < newlines then s.skipped else 0
    before :=
      if 0 < newlines then (passed.reverse.takeWhile (· != '\n')).reverse else s.before ++ passed
    skipped := if 0 < newlines then 0 else s.skipped }

/-- A flaw at the current place. -/
def Source.flaw (s : Source) (why : Flaw) : Refused :=
  ⟨why, s.line, s.before ++ s.rest.takeWhile (· != '\n'), false⟩

/-- The number of the line after the last one. -/
def Source.endLine (s : Source) : Nat :=
  s.line + s.skipped + s.rest.count '\n' + 1

/-- Reading code. -/
abbrev Read := StateT Source (Except Refused)

/-- The code cannot be read. -/
def Read.refuse {α : Type} (why : Flaw) : Read α := do
  throw ((← get).flaw why)

/-- The code ends too early. -/
def Read.refuseEnd {α : Type} : Read α := do
  let s ← get
  throw ⟨.ended, s.endLine, [], false⟩

/-- Something is still open at the end of the code. -/
def Read.refuseOpen {α : Type} (u : Unclosed) : Read α := do
  let s ← get
  throw ⟨.unclosed u, if u.inCode then s.endLine else s.line, [], false⟩

/-- A token. -/
inductive Token
  /-- A word, with the text it is written as. -/
  | word (w : Word) (written : Bytes)
  | redirection (number : Option Nat) (operator : String)
  | operator (s : String)
  | newline
  | finish
  deriving DecidableEq, Repr

/-- The text of a token in a message. -/
def Token.text : Token → Bytes
  | .word _ written => written
  | .redirection _ o => o.toList
  | .operator o => o.toList
  | .newline => "newline".toList
  | .finish => []

/-- Operators that connect channels, longer ones first. -/
def redirectionOperators : List String :=
  ["<<<", "<<-", "&>>", "<<", "<&", "<>", "<", ">>", ">&", ">|", "&>", ">"]

/-- Operators between commands, longer ones first. -/
def commandOperators : List String :=
  [";;&", ";;", ";&", ";", "&&", "&", "||", "|&", "|", "(", ")"]

/-- Text without blanks, escaped newlines and comments before it. -/
def skipBlanks : Bytes → Bytes
  | [] => []
  | '\\' :: '\n' :: r => skipBlanks r
  | c :: r =>
    if c == ' ' || c == '\t' then skipBlanks r
    else if c == '#' then r.dropWhile (· != '\n')
    else c :: r

/-- An operator that a text starts with. -/
def startingOperator (operators : List String) (s : Bytes) : Option String :=
  operators.find? fun o => o.toList.isPrefixOf s

/-- Read a token. -/
def nextToken : Read Token := do
  modify fun s => s.pass (skipBlanks s.rest)
  let s ← get
  let digits := s.rest.takeWhile Char.isDigit
  let after := s.rest.drop digits.length
  match s.rest, startingOperator redirectionOperators after with
  | [], _ => return .finish
  | '\n' :: r, _ =>
    set (s.pass r)
    return .newline
  | _, some o =>
    -- a number before the operator is its channel, unless the operator is for both outputs
    if digits.isEmpty || o.toList.head? != some '&' then
      set (s.pass (after.drop o.length))
      return .redirection ((wholeNumber? digits).map Int.toNat) o
    else
      set (s.pass after)
      return .word (digits.map .plain) digits
  | _, none =>
    match startingOperator commandOperators s.rest with
    | some o =>
      set (s.pass (s.rest.drop o.length))
      return .operator o
    | none =>
      match readWord s.rest with
      | .ok (w, rest) =>
        set (s.pass rest)
        return .word w (s.rest.take (s.rest.length - rest.length))
      | .error u => Read.refuseOpen u

/-- Look at the next token. -/
def peekToken : Read Token := do
  let s ← get
  let t ← nextToken
  set s
  return t

/-- The next token is out of place. -/
def Read.refuseToken {α : Type} : Read α := do
  modify fun s => s.pass (skipBlanks s.rest)
  match ← peekToken with
  | .finish => Read.refuseEnd
  | t => Read.refuse (.unexpected t.text)

/-- The lines that a message about refused code consists of. -/
def Refused.message (r : Refused) : List Bytes :=
  let start := s!"line {r.line}: ".toList
  match r.why with
  | .unexpected t =>
    [start ++ "syntax error near unexpected token \x60".toList ++ t ++ ['\''],
     start ++ '\x60' :: (r.text ++ ['\''])]
  | .unclosed u =>
    [start ++ "unexpected EOF while looking for matching \x60".toList ++ [u.bracket.closer, '\'']]
  | .ended => [start ++ "syntax error: unexpected end of file".toList]

end Tutor.Shell
