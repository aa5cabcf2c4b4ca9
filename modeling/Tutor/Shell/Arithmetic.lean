import Tutor.Shell.Number

namespace Tutor.Shell

/-!
# Arithmetic

Expressions over whole numbers of 64 bits, and variables.

* `Term` is an expression, `Term.read` reads one;
* `Term.value` works it out; variables hold texts that are expressions themselves;
* `calculate` does both, and gives the wording of what is wrong.
-/

/-- An expression. Where it can fail, it keeps the text that a message shows. -/
inductive Term
  | number (n : Int)
  | named (name : Bytes)
  | unary (operator : Char) (a : Term)
  | binary (operator : String) (a b : Term) (shown : Bytes)
  | both (a b : Term)
  | either (a b : Term)
  | choice (condition yes no : Term)
  /-- An assignment; an empty operator sets the value, another one combines it. -/
  | assign (operator : String) (name : Bytes) (a : Term) (shown : Bytes)
  /-- A change by one; `before` tells that it happens before the value is taken. -/
  | step (name : Bytes) (change : Int) (before : Bool)
  deriving Repr

/-- What is wrong with an expression, and the text from there on. -/
structure ArithmeticFlaw where
  message : String
  shown : Bytes
  /-- The expression, if it is the value of a variable. -/
  expression : Option Bytes

/-- A flaw in the expression that is worked out. -/
def ArithmeticFlaw.here (message : String) (shown : Bytes) : ArithmeticFlaw :=
  ⟨message, shown, none⟩

/-! ### Tokens -/

/-- A token of an expression. -/
inductive Symbol
  | number (n : Int)
  | name (s : Bytes)
  | operator (s : String)
  | finish
  deriving DecidableEq, Repr

/-- Where the reading of an expression is. -/
structure Scan where
  /-- The token that is read next. -/
  token : Symbol
  /-- The text from the start of the last token on; the end of the text is none. -/
  shown : Bytes
  /-- The text after the token. -/
  rest : Bytes

/-- Reading an expression. -/
abbrev ReadTerm := StateT Scan (Except ArithmeticFlaw)

/-- A character that a name may start with. -/
def startsName (c : Char) : Bool :=
  c.isAlpha || c == '_'

/-- A character that a name may go on with. -/
def continuesName (c : Char) : Bool :=
  c.isAlphanum || c == '_'

/-- The operators, longer ones before those they start with. -/
def operatorSymbols : List String :=
  ["<<=", ">>=", "**", "<<", ">>", "<=", ">=", "==", "!=", "&&", "||", "++", "--", "+=", "-=", "*=",
   "/=", "%=", "&=", "^=", "|=", "+", "-", "*", "/", "%", "<", ">", "=", "!", "~", "&", "|", "^",
   "?", ":", ",", "(", ")"]

/-- The value of a digit in a base up to 64. Up to 36, letters of both cases are the same. -/
def wideDigit (base : Nat) (c : Char) : Option Nat :=
  if c.isDigit then some (c.toNat - 48)
  else if c.isLower then some (c.toNat - 87)
  else if c.isUpper then some (if base ≤ 36 then c.toNat - 55 else c.toNat - 29)
  else if c == '@' then some 62
  else if c == '_' then some 63
  else none

/-- The value of digits in a base. -/
def wideNumber (base : Nat) (s : Bytes) : Option Nat :=
  s.foldlM (fun n c => ((wideDigit base c).filter (· < base)).map (base * n + ·)) 0

/-- The value of a numeral: `0x` before hexadecimal digits, a zero before octal ones, or a base and
`#` before its digits. -/
def numeralValue (s : Bytes) : Option Nat :=
  match s with
  | '0' :: 'x' :: r | '0' :: 'X' :: r => wideNumber 16 r
  | _ =>
    match s.dropWhile (· != '#'), wideNumber 10 (s.takeWhile (· != '#')) with
    | '#' :: r, some base => if 2 ≤ base && base ≤ 64 then wideNumber base r else none
    | '#' :: _, none => none
    | _, _ => if s.head? == some '0' then wideNumber 8 s else wideNumber 10 s

/-- A number of 64 bits. -/
def wrap (n : Int) : Int :=
  n.bmod (Nat.pow 2 64)

/-- Read the next token after `before`, the text from the start of the last one. -/
def nextSymbol (before s : Bytes) : Except ArithmeticFlaw Scan :=
  match s.dropWhile isSpace with
  | [] => .ok ⟨.finish, before, []⟩
  | c :: r =>
    let s := c :: r
    if c.isDigit then
      let part (c : Char) : Bool := continuesName c || c == '#' || c == '@'
      let numeral := s.takeWhile part
      match numeralValue numeral with
      | some n => .ok ⟨.number (wrap n), s, s.dropWhile part⟩
      | none => .error (.here "value too great for base" s)
    else if startsName c then
      .ok ⟨.name (s.takeWhile continuesName), s, s.dropWhile continuesName⟩
    else
      match operatorSymbols.find? fun o => o.toList.isPrefixOf s with
      | some o => .ok ⟨.operator o, s, s.drop o.length⟩
      | none =>
        if before.isEmpty || (before.head?.any fun b => !continuesName b) then
          .error (.here "syntax error: operand expected" s)
        else .error (.here "syntax error: invalid arithmetic operator" s)

/-! ### Reading -/

namespace ReadTerm

/-- Go to the next token. -/
def advance : ReadTerm Unit := do
  let s ← get
  match nextSymbol s.shown s.rest with
  | .ok s => set s
  | .error e => throw e

/-- The expression is wrong here. -/
def refuse {α : Type} (message : String) : ReadTerm α := do
  throw (.here message (← get).shown)

/-- The next token is an operator. -/
def sees (o : String) : ReadTerm Bool := do
  return (← get).token == .operator o

end ReadTerm

/-- Operators with two operands, and how tightly they bind. -/
def bindings : List (String × Nat) :=
  [("||", 1), ("&&", 2), ("|", 3), ("^", 4), ("&", 5), ("==", 6), ("!=", 6), ("<=", 7), (">=", 7),
   ("<", 7), (">", 7), ("<<", 8), (">>", 8), ("+", 9), ("-", 9), ("*", 10), ("/", 10), ("%", 10),
   ("**", 11)]

/-- Assignments, and the operators that they combine with. -/
def assignments : List (String × String) :=
  [("=", ""), ("+=", "+"), ("-=", "-"), ("*=", "*"), ("/=", "/"), ("%=", "%"), ("<<=", "<<"),
   (">>=", ">>"), ("&=", "&"), ("^=", "^"), ("|=", "|")]

/-- Put two operands together. -/
def Term.join (o : String) (a b : Term) (shown : Bytes) : Term :=
  match o with
  | "&&" => .both a b
  | "||" => .either a b
  | _ => .binary o a b shown

mutual

/-- Read an operand with the operators before and after it. -/
def readOperand : (fuel : Nat) → ReadTerm Term
  | 0 => ReadTerm.refuse "expression recursion level exceeded"
  | fuel + 1 => do
    let s ← get
    match s.token with
    | .number n =>
      ReadTerm.advance
      return .number n
    | .name name =>
      ReadTerm.advance
      match (← get).token with
      | .operator "++" =>
        ReadTerm.advance
        return .step name 1 false
      | .operator "--" =>
        ReadTerm.advance
        return .step name (-1) false
      | _ => return .named name
    | .operator "(" =>
      ReadTerm.advance
      let a ← readSequence fuel
      if !(← ReadTerm.sees ")") then ReadTerm.refuse "missing \x60)'"
      ReadTerm.advance
      return a
    | .operator "!" => readUnary '!' fuel
    | .operator "~" => readUnary '~' fuel
    | .operator "-" => readUnary '-' fuel
    | .operator "+" => readUnary '+' fuel
    | .operator "++" => readStep '+' 1 fuel
    | .operator "--" => readStep '-' (-1) fuel
    | _ => ReadTerm.refuse "syntax error: operand expected"

/-- Read an operand after an operator. -/
def readUnary (operator : Char) : (fuel : Nat) → ReadTerm Term
  | 0 => ReadTerm.refuse "expression recursion level exceeded"
  | fuel + 1 => do
    ReadTerm.advance
    return .unary operator (← readOperand fuel)

/-- Read a name after a change by one. Before anything else, the two signs are two operators. -/
def readStep (operator : Char) (change : Int) : (fuel : Nat) → ReadTerm Term
  | 0 => ReadTerm.refuse "expression recursion level exceeded"
  | fuel + 1 => do
    ReadTerm.advance
    match (← get).token with
    | .name name =>
      ReadTerm.advance
      return .step name change true
    | _ => return .unary operator (.unary operator (← readOperand fuel))

/-- Read operands with operators between them that bind at least as tightly as `level`. -/
def readBinary (level : Nat) : (fuel : Nat) → ReadTerm Term
  | 0 => ReadTerm.refuse "expression recursion level exceeded"
  | fuel + 1 => do readRest level (← readOperand fuel) fuel

/-- Read operators and operands after a first one. -/
def readRest (level : Nat) (a : Term) : (fuel : Nat) → ReadTerm Term
  | 0 => ReadTerm.refuse "expression recursion level exceeded"
  | fuel + 1 => do
    match (← get).token with
    | .operator o =>
      match bindings.lookup o with
      | some l =>
        if l < level then return a
        ReadTerm.advance
        let start := (← get).shown
        let b ← readBinary (if o == "**" then l else l + 1) fuel
        let stop := (← get).shown
        readRest level (.join o a b (if o == "**" then stop else start)) fuel
      | none => return a
    | _ => return a

/-- Read a choice or an assignment. -/
def readTerm : (fuel : Nat) → ReadTerm Term
  | 0 => ReadTerm.refuse "expression recursion level exceeded"
  | fuel + 1 => do
    let a ← readBinary 1 fuel
    match (← get).token with
    | .operator "?" =>
      ReadTerm.advance
      if (← get).token == .finish || (← ReadTerm.sees ":") then
        ReadTerm.refuse "expression expected"
      let yes ← readSequence fuel
      if !(← ReadTerm.sees ":") then
        ReadTerm.refuse "\x60:' expected for conditional expression"
      ReadTerm.advance
      if (← get).token == .finish then ReadTerm.refuse "expression expected"
      return .choice a yes (← readTerm fuel)
    | .operator o =>
      match assignments.lookup o, a with
      | some operator, .named name =>
        ReadTerm.advance
        let shown := (← get).shown
        return .assign operator name (← readTerm fuel) shown
      | some _, _ => ReadTerm.refuse "attempted assignment to non-variable"
      | none, _ => return a
    | _ => return a

/-- Read terms between commas; the last one counts. -/
def readSequence : (fuel : Nat) → ReadTerm Term
  | 0 => ReadTerm.refuse "expression recursion level exceeded"
  | fuel + 1 => do
    let a ← readTerm fuel
    if ← ReadTerm.sees "," then
      ReadTerm.advance
      return .binary "," a (← readSequence fuel) []
    else return a

end

/-- Read an expression; an empty one is zero. -/
def Term.read (s : Bytes) : Except ArithmeticFlaw Term := do
  let start ← nextSymbol [] s
  if start.token == .finish then return .number 0
  let (a, last) ← (readSequence (8 * s.length + 16)).run start
  if last.token == .finish then return a
  else .error (.here "syntax error in expression" last.shown)

/-! ### Values -/

/-- The variables, with the newest values first. -/
structure Values where
  initial : Bytes → Option Bytes
  assigned : List (Bytes × Int)

/-- Working out an expression. -/
abbrev Calculate := StateT Values (Except ArithmeticFlaw)

/-- A number from a condition. -/
def truth (b : Bool) : Int :=
  if b then 1 else 0

/-- The value of an operator with two operands. -/
def binaryValue (o : String) (a b : Int) (shown : Bytes) : Except ArithmeticFlaw Int :=
  match o with
  | "+" => .ok (wrap (a + b))
  | "-" => .ok (wrap (a - b))
  | "*" => .ok (wrap (a * b))
  | "/" => if b = 0 then .error (.here "division by 0" shown) else .ok (wrap (a.tdiv b))
  | "%" => if b = 0 then .error (.here "division by 0" shown) else .ok (a.tmod b)
  | "**" =>
    if b < 0 then .error (.here "exponent less than 0" shown)
    else .ok ((List.replicate b.toNat a).foldl (fun x y => wrap (x * y)) 1)
  | "<<" => .ok (wrap (a * Nat.pow 2 (b % 64).toNat))
  | ">>" => .ok (a >>> (b % 64).toNat)
  | "&" => .ok ((Int64.ofInt a) &&& (Int64.ofInt b)).toInt
  | "|" => .ok ((Int64.ofInt a) ||| (Int64.ofInt b)).toInt
  | "^" => .ok ((Int64.ofInt a) ^^^ (Int64.ofInt b)).toInt
  | "==" => .ok (truth (a == b))
  | "!=" => .ok (truth (a != b))
  | "<" => .ok (truth (a < b))
  | ">" => .ok (truth (b < a))
  | "<=" => .ok (truth (a ≤ b))
  | ">=" => .ok (truth (b ≤ a))
  | _ => .ok b

/-- Set a variable. -/
def Calculate.assign (name : Bytes) (n : Int) : Calculate Unit :=
  modify fun v => { v with assigned := (name, n) :: v.assigned }

/-- The value of an expression. Each name that is followed takes some `fuel`. -/
def Term.value : (fuel : Nat) → Term → Calculate Int
  | 0, _ => throw (.here "expression recursion level exceeded" [])
  | _, .number n => return n
  | fuel + 1, .named name => do
    let v ← get
    match v.assigned.lookup name, v.initial name with
    | some n, _ => return n
    | none, none => return 0
    | none, some text =>
      -- what was given from outside is an expression itself
      match Term.read text with
      | .ok a => a.value fuel
      | .error e => throw { e with expression := some text }
  | fuel + 1, .unary o a => do
    let n ← a.value fuel
    match o with
    | '-' => return wrap (-n)
    | '!' => return truth (n == 0)
    | '~' => return -n - 1
    | _ => return n
  | fuel + 1, .binary o a b shown => do
    let x ← a.value fuel
    let y ← b.value fuel
    match binaryValue o x y shown with
    | .ok n => return n
    | .error e => throw e
  | fuel + 1, .both a b => do
    if (← a.value fuel) == 0 then return 0 else return truth ((← b.value fuel) != 0)
  | fuel + 1, .either a b => do
    if (← a.value fuel) != 0 then return 1 else return truth ((← b.value fuel) != 0)
  | fuel + 1, .choice c a b => do
    if (← c.value fuel) != 0 then a.value fuel else b.value fuel
  | fuel + 1, .assign o name a shown => do
    let x ← if o.isEmpty then pure 0 else (Term.named name).value fuel
    let y ← a.value fuel
    match binaryValue o x y shown with
    | .ok n =>
      Calculate.assign name n
      return n
    | .error e => throw e
  | fuel + 1, .step name change before => do
    let n ← (Term.named name).value fuel
    Calculate.assign name (wrap (n + change))
    return if before then wrap (n + change) else n

/-- How deep expressions may lie in one another. -/
def deepestTerm : Nat := 1024

/-- The wording of a flaw in an expression. -/
def ArithmeticFlaw.wording (f : ArithmeticFlaw) (expression : Bytes) : Bytes :=
  (f.expression.getD expression).dropWhile isSpace ++ (": " ++ f.message).toList ++
    " (error token is \"".toList ++ f.shown ++ "\")".toList

/-- Work out an expression: its value and the assignments, the first one first. -/
def calculate (named : Bytes → Option Bytes) (expression : Bytes) :
    Except Bytes (Int × List (Bytes × Int)) :=
  let result := do
    let a ← Term.read expression
    (a.value (deepestTerm + expression.length)).run ⟨named, []⟩
  match result with
  | .ok (n, v) => .ok (n, v.assigned.reverse)
  | .error e => .error (e.wording expression)

end Tutor.Shell
