import Tutor.Shell.Token

namespace Tutor.Shell

/-!
# Reading commands

Code is read line by line: `nextLine` reads the commands up to the end of a line, or of the last
line that they take up. What follows a line is read only after the line has run.
-/

/-! ### Small parts -/

/-- A word that is written as one of some texts comes next. -/
def seesWord (texts : List String) : Read Bool := do
  match ← peekToken with
  | .word _ written => return texts.contains (String.ofList written)
  | _ => return false

/-- An operator comes next. -/
def seesOperator (o : String) : Read Bool := do
  return (← peekToken) == .operator o

/-- Read an operator. -/
def expectOperator (o : String) : Read Unit := do
  if ← seesOperator o then
    let _ ← nextToken
  else Read.refuseToken

/-- Read a reserved word. -/
def expectWord (text : String) : Read Unit := do
  if ← seesWord [text] then
    let _ ← nextToken
  else Read.refuseToken

/-- Read newlines; each takes some `fuel`. -/
def skipNewlines : (fuel : Nat) → Read Unit
  | 0 => return
  | fuel + 1 => do
    if (← peekToken) == .newline then
      let _ ← nextToken
      skipNewlines fuel

/-- Words that mean something where a command may start. -/
def reservedWords : List String :=
  ["then", "else", "elif", "fi", "do", "done", "esac", "\x7d"]

/-- A token that ends a list of commands. -/
def endsList : Read Bool := do
  match ← peekToken with
  | .finish => return true
  | .operator o => return [")", ";;", ";&", ";;&"].contains o
  | .word _ written => return reservedWords.contains (String.ofList written)
  | _ => return false

/-- The name that a word starts with. -/
def leadingName : Word → Bytes
  | .plain c :: rest => if continuesName c then c :: leadingName rest else []
  | _ => []

/-- The name and the value of a word that is an assignment. -/
def assignmentOf (w : Word) : Option Assignment :=
  let name := leadingName w
  if !name.head?.any startsName then none
  else
    match w.drop name.length with
    | .plain '=' :: value => some ⟨name, false, withHome value⟩
    | .plain '+' :: .plain '=' :: value => some ⟨name, true, withHome value⟩
    | _ => none

/-! ### Redirections -/

/-- The link of an operator. -/
def linkOf (o : String) : Link :=
  match o with
  | "<" | "<>" => .read
  | ">>" => .append
  | "&>" => .writeBoth
  | "&>>" => .appendBoth
  | "<&" | ">&" => .duplicate
  | "<<" | "<<-" | "<<<" => .text
  | _ => .write

/-- Cut a text in place off the lines after the current one: the text, the number of its lines and
whether it ends with the delimiter. -/
def takeText (delimiter : Bytes) (trim : Bool) : List Bytes → List Bytes × Nat × Bool
  | [] => ([], 0, false)
  | l :: more =>
    let l := if trim then l.dropWhile (· == '\t') else l
    if l == delimiter then ([], 1, true)
    else
      let (text, n, closed) := takeText delimiter trim more
      (l :: text, n + 1, closed)

/-- The lines of a text: the pieces between newlines, without an empty one at the end. -/
def linesIn : (line : Bytes) → Bytes → List Bytes
  | line, [] => if line.isEmpty then [] else [line.reverse]
  | line, '\n' :: r => line.reverse :: linesIn [] r
  | line, c :: r => linesIn (c :: line) r

/-- Read a text in place: it stands in the lines after the current one. -/
def readText (trim : Bool) (delimiter : Word) : Read Word := do
  let s ← get
  let name := delimiter.flatMap fun p =>
    match p with
    | .plain c => [c]
    | .quoted t => t
    | _ => []
  let here := s.rest.takeWhile (· != '\n')
  let below := linesIn [] ((s.rest.dropWhile (· != '\n')).drop 1)
  -- the lines below are skipped once this one has been read
  let (text, count, closed) := takeText name trim below
  let warning := s!"warning: here-document at line {s.line} delimited by end-of-file (wanted \x60"
  set { s with
        rest := here ++ '\n' :: (below.drop count).flatMap (· ++ ['\n'])
        skipped := s.skipped + count
        warnings :=
          if closed then s.warnings
          else (s.line + count, warning.toList ++ name ++ "')".toList) :: s.warnings }
  let body := text.flatMap (· ++ ['\n'])
  -- a delimiter with quotes in it keeps the text as it stands
  if (literalText delimiter).isNone then return [.quoted body]
  else
    match textWord body with
    | .ok w => return w
    | .error u => Read.refuseOpen u

/-- Read the target of a redirection. -/
def readRedirection (number : Option Nat) (o : String) : Read Redirection := do
  match ← peekToken with
  | .word w _ =>
    let _ ← nextToken
    match o with
    | "<<" => return ⟨number, .text, ← readText false w⟩
    | "<<-" => return ⟨number, .text, ← readText true w⟩
    | "<<<" => return ⟨number, .text, w ++ [.quoted ['\n']]⟩
    | _ => return ⟨number, linkOf o, w⟩
  | _ => Read.refuseToken

/-- Read redirections; each takes some `fuel`. -/
def readRedirections : (fuel : Nat) → Read (List Redirection)
  | 0 => return []
  | fuel + 1 => do
    match ← peekToken with
    | .redirection number o =>
      let _ ← nextToken
      let r ← readRedirection number o
      return r :: (← readRedirections fuel)
    | _ => return []

/-! ### Simple commands -/

/-- The parts of a simple command. -/
structure Parts where
  assignments : List Assignment
  words : List Word
  redirections : List Redirection

/-- Read the parts of a simple command after the first words; assignments stand before all words. -/
def readParts (named : Bool) : (fuel : Nat) → Read Parts
  | 0 => return ⟨[], [], []⟩
  | fuel + 1 => do
    match ← peekToken with
    | .word w _ =>
      let _ ← nextToken
      match named, assignmentOf w with
      | false, some a =>
        let p ← readParts false fuel
        return { p with assignments := a :: p.assignments }
      | _, _ =>
        let p ← readParts true fuel
        return { p with words := w :: p.words }
    | .redirection number o =>
      let _ ← nextToken
      let r ← readRedirection number o
      let p ← readParts named fuel
      return { p with redirections := r :: p.redirections }
    | _ => return ⟨[], [], []⟩

/-- Read words up to a newline or a semicolon, each for some `fuel`. -/
def readWords : (fuel : Nat) → Read (List Word)
  | 0 => return []
  | fuel + 1 => do
    match ← peekToken with
    | .word w _ =>
      let _ ← nextToken
      return w :: (← readWords fuel)
    | _ => return []

/-- The content of two pairs of parentheses, of which the first is open. -/
def readDoubled : Read (Option Bytes) := do
  let s ← get
  match s.rest with
  | '(' :: _ =>
    match Bracket.parenthesis.content s.rest with
    | .ok ('(' :: inner, rest) =>
      if inner.getLast? == some ')' then
        set (s.pass rest)
        return some inner.dropLast
      else return none
    | _ => return none
  | _ => return none

/-! ### Conditions -/

mutual

/-- Read a condition between double brackets. -/
def readCondition : (fuel : Nat) → Read Condition
  | 0 => Read.refuseToken
  | fuel + 1 => do
    let a ← readConditionBoth fuel
    if ← seesOperator "||" then
      let _ ← nextToken
      return .either a (← readCondition fuel)
    else return a

/-- Read conditions that have to hold together. -/
def readConditionBoth : (fuel : Nat) → Read Condition
  | 0 => Read.refuseToken
  | fuel + 1 => do
    let a ← readConditionPart fuel
    if ← seesOperator "&&" then
      let _ ← nextToken
      return .both a (← readConditionBoth fuel)
    else return a

/-- Read one condition. -/
def readConditionPart : (fuel : Nat) → Read Condition
  | 0 => Read.refuseToken
  | fuel + 1 => do
    skipNewlines fuel
    match ← peekToken with
    | .operator "(" =>
      let _ ← nextToken
      let c ← readCondition fuel
      expectOperator ")"
      return c
    | .word w written =>
      let _ ← nextToken
      if written == ['!'] then return .negated (← readConditionPart fuel)
      match ← peekToken with
      | .word next name =>
        if name == "]]".toList then return .unary "-n".toList w
        let _ ← nextToken
        match ← peekToken with
        | .word right ends =>
          if ends == "]]".toList then return .unary written next
          let _ ← nextToken
          return .binary name w right
        | _ => return .unary written next
      | .redirection _ o =>
        let _ ← nextToken
        match ← peekToken with
        | .word right _ =>
          let _ ← nextToken
          return .binary o.toList w right
        | _ => Read.refuseToken
      | _ => return .unary "-n".toList w
    | _ => Read.refuseToken

end

/-! ### Commands -/

/-- Put a redirected command into its redirections, if there are any. -/
def Command.withRedirections (line : Nat) (c : Command) (rs : List Redirection) : Command :=
  if rs.isEmpty then c else .redirected line c rs

/-- Errors go where the output goes. -/
def errorsToOutput : Redirection :=
  ⟨some 2, .duplicate, [.plain '1']⟩

/-- The line of the current place. -/
def currentLine : Read Nat := do
  return (← get).line

/-- The three parts of the head of a counting loop. -/
def cutHead (s : Bytes) : Bytes × Bytes × Bytes :=
  let a := s.takeWhile (· != ';')
  let r := (s.dropWhile (· != ';')).drop 1
  let b := r.takeWhile (· != ';')
  (a, b, (r.dropWhile (· != ';')).drop 1)

mutual

/-- Read a list of commands up to a token that ends it. -/
def readList : (fuel : Nat) → Read Command
  | 0 => Read.refuseToken
  | fuel + 1 => do
    skipNewlines fuel
    let c ← readChain fuel
    match ← peekToken with
    | .operator ";" | .newline =>
      let _ ← nextToken
      skipNewlines fuel
      if ← endsList then return c else return .sequence c (← readList fuel)
    | .operator "&" =>
      let _ ← nextToken
      skipNewlines fuel
      if ← endsList then return .background c
      else return .sequence (.background c) (← readList fuel)
    | _ => return c

/-- Read commands joined by `&&` and `||`. -/
def readChain : (fuel : Nat) → Read Command
  | 0 => Read.refuseToken
  | fuel + 1 => do readChainRest (← readPipe fuel) fuel

/-- Read what is joined to a command. -/
def readChainRest (c : Command) : (fuel : Nat) → Read Command
  | 0 => Read.refuseToken
  | fuel + 1 => do
    match ← peekToken with
    | .operator "&&" =>
      let _ ← nextToken
      skipNewlines fuel
      readChainRest (.both c (← readPipe fuel)) fuel
    | .operator "||" =>
      let _ ← nextToken
      skipNewlines fuel
      readChainRest (.either c (← readPipe fuel)) fuel
    | _ => return c

/-- Read a command and those that its output goes through, perhaps after an exclamation mark. -/
def readPipe : (fuel : Nat) → Read Command
  | 0 => Read.refuseToken
  | fuel + 1 => do
    if ← seesWord ["!"] then
      let _ ← nextToken
      match ← peekToken with
      | .operator ";" | .newline | .finish => return .negated .nothing
      | _ => return .negated (← readPipe fuel)
    let line ← currentLine
    let c ← readCommand fuel
    match ← peekToken with
    | .operator "|" =>
      let _ ← nextToken
      skipNewlines fuel
      return .pipe c (← readPipe fuel)
    | .operator "|&" =>
      let _ ← nextToken
      skipNewlines fuel
      return .pipe (.redirected line c [errorsToOutput]) (← readPipe fuel)
    | _ => return c

/-- Read a command with its redirections. -/
def readCommand : (fuel : Nat) → Read Command
  | 0 => Read.refuseToken
  | fuel + 1 => do
    let line ← currentLine
    match ← peekToken with
    | .operator "(" =>
      let _ ← nextToken
      match ← readDoubled with
      | some text =>
        return .withRedirections line (.arithmetic line text) (← readRedirections fuel)
      | none =>
        -- one parenthesis opens a subshell
        let body ← readList fuel
        expectOperator ")"
        return .withRedirections line (.subshell body) (← readRedirections fuel)
    | .word _ written =>
      match ← readCompound (String.ofList written) fuel with
      | some c => return .withRedirections line c (← readRedirections fuel)
      | none =>
        if reservedWords.contains (String.ofList written) then Read.refuseToken
        let p ← readParts false fuel
        let line ← currentLine
        match p with
        | ⟨[], [_], []⟩ =>
          -- a single word before a parenthesis names a function
          if ← seesOperator "(" then
            let _ ← nextToken
            expectOperator ")"
            skipNewlines fuel
            return .define written (← readCommand fuel)
          else readInner p fuel line
        | _ => readInner p fuel line
    | .redirection _ _ =>
      let p ← readParts false fuel
      readInner p fuel (← currentLine)
    | _ => Read.refuseToken

/-- Check the code inside the words of a command. -/
def readInner (p : Parts) : (fuel : Nat) → (line : Nat) → Read Command
  | 0, _ => Read.refuseToken
  | fuel + 1, line => do
    let s ← get
    for piece in p.words.flatten ++ p.assignments.flatMap (·.value) do
      match piece with
      | .code _ false code =>
        let here : Source := { s with rest := code ++ [')'], skipped := 0 }
        match (checkCode fuel).run here with
        | .error e =>
          throw { e with line := s.line, text := (s.flaw .ended).text, inner := true }
        | .ok _ => pure ()
      | _ => pure ()
    return .simple line p.assignments p.words p.redirections

/-- Read code up to a closing parenthesis at its end. -/
def checkCode : (fuel : Nat) → Read Unit
  | 0 => return
  | fuel + 1 => do
    skipNewlines fuel
    if !(← seesOperator ")") then
      let _ ← readList fuel
      expectOperator ")"

/-- Read a compound command that a reserved word introduces, if it does. -/
def readCompound (word : String) : (fuel : Nat) → Read (Option Command)
  | 0 => Read.refuseToken
  | fuel + 1 => do
    let line ← currentLine
    match word with
    | "if" =>
      let _ ← nextToken
      return some (← readBranch fuel)
    | "while" | "until" =>
      let _ ← nextToken
      let condition ← readList fuel
      return some (.loop (word == "until") condition (← readBody fuel))
    | "for" =>
      let _ ← nextToken
      if ← seesOperator "(" then
        let _ ← nextToken
        match ← readDoubled with
        | none => Read.refuseToken
        | some text =>
          if ← seesOperator ";" then
            let _ ← nextToken
          skipNewlines fuel
          let (a, b, c) := cutHead text
          return some (.count line a b c (← readBody fuel))
      match ← peekToken with
      | .word _ name =>
        let _ ← nextToken
        return some (← readEach line name fuel)
      | _ => Read.refuseToken
    | "case" =>
      let _ ← nextToken
      match ← peekToken with
      | .word subject _ =>
        let _ ← nextToken
        skipNewlines fuel
        expectWord "in"
        skipNewlines fuel
        return some (.select line subject (← readClauses fuel))
      | _ => Read.refuseToken
    | "function" =>
      let _ ← nextToken
      match ← peekToken with
      | .word _ name =>
        let _ ← nextToken
        if ← seesOperator "(" then
          let _ ← nextToken
          expectOperator ")"
        skipNewlines fuel
        return some (.define name (← readCommand fuel))
      | _ => Read.refuseToken
    | "\x7b" =>
      let _ ← nextToken
      let body ← readList fuel
      expectWord "\x7d"
      return some (.sequence body .nothing)
    | "[[" =>
      let _ ← nextToken
      let c ← readCondition fuel
      expectWord "]]"
      return some (.test line c)
    | _ => return none

/-- Read a branch after the word that introduces its condition. -/
def readBranch : (fuel : Nat) → Read Command
  | 0 => Read.refuseToken
  | fuel + 1 => do
    let condition ← readList fuel
    expectWord "then"
    let yes ← readList fuel
    if ← seesWord ["elif"] then
      let _ ← nextToken
      return .branch condition yes (← readBranch fuel)
    else if ← seesWord ["else"] then
      let _ ← nextToken
      let no ← readList fuel
      expectWord "fi"
      return .branch condition yes no
    else
      expectWord "fi"
      return .branch condition yes .nothing

/-- Read the body of a loop. -/
def readBody : (fuel : Nat) → Read Command
  | 0 => Read.refuseToken
  | fuel + 1 => do
    expectWord "do"
    let body ← readList fuel
    expectWord "done"
    return body

/-- Read the words and the body of a loop over words. -/
def readEach (line : Nat) (name : Bytes) : (fuel : Nat) → Read Command
  | 0 => Read.refuseToken
  | fuel + 1 => do
    skipNewlines fuel
    if ← seesWord ["in"] then
      let _ ← nextToken
      let words ← readWords fuel
      match ← peekToken with
      | .operator ";" | .newline =>
        let _ ← nextToken
        skipNewlines fuel
        return .each line name (some words) (← readBody fuel)
      | _ => Read.refuseToken
    else
      if ← seesOperator ";" then
        let _ ← nextToken
      skipNewlines fuel
      return .each line name none (← readBody fuel)

/-- Read the clauses of a selection. -/
def readClauses : (fuel : Nat) → Read (List (List Word × Command))
  | 0 => Read.refuseToken
  | fuel + 1 => do
    skipNewlines fuel
    if ← seesWord ["esac"] then
      let _ ← nextToken
      return []
    if ← seesOperator "(" then
      let _ ← nextToken
    let patterns ← readPatterns fuel
    skipNewlines fuel
    let body ← if ← endsList then pure .nothing else readList fuel
    if ← seesOperator ";;" then
      let _ ← nextToken
      return (patterns, body) :: (← readClauses fuel)
    else
      expectWord "esac"
      return [(patterns, body)]

/-- Read the patterns of a clause. -/
def readPatterns : (fuel : Nat) → Read (List Word)
  | 0 => Read.refuseToken
  | fuel + 1 => do
    match ← peekToken with
    | .word w _ =>
      let _ ← nextToken
      if ← seesOperator "|" then
        let _ ← nextToken
        return w :: (← readPatterns fuel)
      else
        expectOperator ")"
        return [w]
    | _ => Read.refuseToken

end

/-- Read the commands of a line, of which there is at least one. -/
def readLine : (fuel : Nat) → Read Command
  | 0 => Read.refuseToken
  | fuel + 1 => do
    let c ← readChain fuel
    match ← peekToken with
    | .operator o =>
      if o != ";" && o != "&" then Read.refuseToken
      let _ ← nextToken
      let c := if o == "&" then .background c else c
      match ← peekToken with
      | .newline =>
        let _ ← nextToken
        return c
      | .finish => return c
      | _ => return .sequence c (← readLine fuel)
    | .newline =>
      let _ ← nextToken
      return c
    | .finish => return c
    | _ => Read.refuseToken

/-- The next commands and the code after them; nothing if only blanks are left. -/
def nextLine (s : Source) : Except Refused (Option (Command × Source)) :=
  let fuel := 4 * s.rest.length + 64
  let read : Read (Option Command) := do
    skipNewlines fuel
    if (← peekToken) == .finish then return none else return some (← readLine fuel)
  (read.run s).map fun r => r.1.map (·, r.2)

end Tutor.Shell
