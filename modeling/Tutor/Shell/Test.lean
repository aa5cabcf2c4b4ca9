import Tutor.Shell.Expand

namespace Tutor.Shell

/-!
# Conditions

* `unaryHolds` and `binaryHolds` decide the conditions that commands can test;
* `testWords` decides the condition that the arguments of `test` make up: their number tells how
  they are read.
-/

/-- A condition that cannot be decided. -/
abbrev Undecided := Bytes

/-- A path in the files. -/
def pathOf (s : Bytes) : Path :=
  Path.ofString (String.ofList s)

/-- What lies at a path is of a kind. -/
def fileIs (files : Files) (s : Bytes) (kind : Node → Bool) : Bool :=
  !s.isEmpty && ((files.lookup (pathOf s)).toOption.any kind)

/-- Operators with one operand. -/
def unaryOperators : List String :=
  ["-a", "-b", "-c", "-d", "-e", "-f", "-g", "-h", "-k", "-L", "-n", "-o", "-p", "-r", "-s", "-S",
   "-t", "-u", "-v", "-w", "-x", "-z"]

/-- A condition with one operand holds. -/
def unaryHolds (m : Machine) (operator : String) (s : Bytes) : Bool :=
  match operator with
  | "-z" => s.isEmpty
  | "-n" => !s.isEmpty
  | "-a" | "-e" | "-r" | "-w" => fileIs m.files s fun _ => true
  | "-d" | "-x" => fileIs m.files s fun n => match n with | .directory => true | _ => false
  | "-f" => fileIs m.files s fun n => match n with | .file _ => true | _ => false
  | "-s" => fileIs m.files s fun n => match n with | .file b => !b.isEmpty | _ => true
  | "-c" => s == "/dev/null".toList
  | "-v" => Table.has m.bindings s
  | _ => false

/-- Operators with two operands. -/
def binaryOperators : List String :=
  ["=", "==", "!=", "<", ">", "-eq", "-ne", "-lt", "-le", "-gt", "-ge", "-nt", "-ot", "-ef"]

/-- A whole number to compare. -/
def comparedNumber (s : Bytes) : Except Undecided Int :=
  match wholeNumber? s with
  | some n => .ok n
  | none => .error (s ++ ": integer expression expected".toList)

/-- The order of two texts. -/
def isBefore : Bytes → Bytes → Bool
  | _, [] => false
  | [], _ :: _ => true
  | a :: s, b :: t => a < b || (a == b && isBefore s t)

/-- A comparison of numbers holds. -/
def numbersCompare (operator : String) (a b : Int) : Option Bool :=
  match operator with
  | "-eq" => some (a == b)
  | "-ne" => some (a != b)
  | "-lt" => some (a < b)
  | "-le" => some (a ≤ b)
  | "-gt" => some (b < a)
  | "-ge" => some (b ≤ a)
  | _ => none

/-- A condition with two operands holds. -/
def binaryHolds (operator : String) (a b : Bytes) : Except Undecided Bool :=
  match operator with
  | "=" | "==" => .ok (a == b)
  | "!=" => .ok (a != b)
  | "<" => .ok (isBefore a b)
  | ">" => .ok (isBefore b a)
  | "-nt" | "-ot" => .ok false
  | "-ef" => .ok (a == b)
  | o => do
    let x ← comparedNumber a
    let y ← comparedNumber b
    .ok ((numbersCompare o x y).getD false)

/-- A word is an operator of a list. -/
def isOneOf (operators : List String) (w : Bytes) : Bool :=
  operators.contains (String.ofList w)

/-- A condition of two words. -/
def testTwo (m : Machine) (a b : Bytes) : Except Undecided Bool :=
  if a == ['!'] then .ok b.isEmpty
  else if isOneOf unaryOperators a then .ok (unaryHolds m (String.ofList a) b)
  else .error (a ++ ": unary operator expected".toList)

/-- A condition of three words. -/
def testThree (m : Machine) (a b c : Bytes) : Except Undecided Bool :=
  if isOneOf binaryOperators b then binaryHolds (String.ofList b) a c
  else if b == "-a".toList then .ok (!a.isEmpty && !c.isEmpty)
  else if b == "-o".toList then .ok (!a.isEmpty || !c.isEmpty)
  else if a == ['!'] then (testTwo m b c).map (!·)
  else if a == ['('] && c == [')'] then .ok (!b.isEmpty)
  else .error (b ++ ": binary operator expected".toList)

mutual

/-- Decide conditions joined by `-o`, and give back the words after them. -/
def testEither (m : Machine) : (fuel : Nat) → List Bytes → Except Undecided (Bool × List Bytes)
  | 0, _ => .error "too many arguments".toList
  | fuel + 1, words => do
    let (a, rest) ← testBoth m fuel words
    match rest with
    | w :: more =>
      if w == "-o".toList then
        let (b, rest) ← testEither m fuel more
        .ok (a || b, rest)
      else .ok (a, rest)
    | [] => .ok (a, [])

/-- Decide conditions joined by `-a`. -/
def testBoth (m : Machine) : (fuel : Nat) → List Bytes → Except Undecided (Bool × List Bytes)
  | 0, _ => .error "too many arguments".toList
  | fuel + 1, words => do
    let (a, rest) ← testPart m fuel words
    match rest with
    | w :: more =>
      if w == "-a".toList then
        let (b, rest) ← testBoth m fuel more
        .ok (a && b, rest)
      else .ok (a, rest)
    | [] => .ok (a, [])

/-- Decide one condition of several. -/
def testPart (m : Machine) : (fuel : Nat) → List Bytes → Except Undecided (Bool × List Bytes)
  | 0, _ => .error "too many arguments".toList
  | _, [] => .error "argument expected".toList
  | fuel + 1, words =>
    match words with
    | ['!'] :: rest => do
      let (a, rest) ← testPart m fuel rest
      .ok (!a, rest)
    | ['('] :: rest => do
      let (a, rest) ← testEither m fuel rest
      match rest with
      | [')'] :: rest => .ok (a, rest)
      | _ => .error "\x60)' expected".toList
    | a :: b :: c :: rest =>
      if isOneOf binaryOperators b then do .ok (← binaryHolds (String.ofList b) a c, rest)
      else if isOneOf unaryOperators a then .ok (unaryHolds m (String.ofList a) b, c :: rest)
      else .ok (!a.isEmpty, b :: c :: rest)
    | a :: b :: rest =>
      if isOneOf unaryOperators a then .ok (unaryHolds m (String.ofList a) b, rest)
      else .ok (!a.isEmpty, b :: rest)
    | a :: rest => .ok (!a.isEmpty, rest)
    | [] => .error "argument expected".toList

end

/-- Decide the condition that words make up. -/
def testWords (m : Machine) (words : List Bytes) : Except Undecided Bool :=
  match words with
  | [] => .ok false
  | [a] => .ok (!a.isEmpty)
  | [a, b] => testTwo m a b
  | [a, b, c] => testThree m a b c
  | [['!'], a, b, c] => (testThree m a b c).map (!·)
  | words => do
    let (b, rest) ← testEither m (3 * words.length + 3) words
    if rest.isEmpty then .ok b else .error "too many arguments".toList

end Tutor.Shell
