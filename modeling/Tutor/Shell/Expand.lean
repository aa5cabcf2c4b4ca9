import Tutor.Shell.Glob
import Tutor.Shell.Machine
import Tutor.Shell.Word

namespace Tutor.Shell

/-!
# Working out words

A word becomes bits: characters that know whether they were quoted, and whether they may be split.

* `Bit` is such a bit, `fieldsOf` splits bits into fields;
* `workOut` works out a word, given how to run code;
* `expandWords`, `expandText` and `expandGlob` work out words for commands, texts and patterns.
-/

/-- A bit of a word that is worked out. -/
inductive Bit
  /-- A character that is not split. -/
  | fixed (quoted : Bool) (c : Char)
  /-- A character of a value, where fields may be split. -/
  | loose (c : Char)
  /-- A quoted text, even if it is empty, is a field. -/
  | present
  /-- Between two arguments. -/
  | cut
  deriving DecidableEq, Repr

/-! ### Fields -/

/-- The fields found so far. -/
structure Fields where
  /-- The newest first. -/
  done : List Bytes
  /-- The field in progress, its newest character first. -/
  current : Option Bytes
  /-- The last field was ended by a blank alone. -/
  closedByBlank : Bool

/-- End the field in progress. -/
def Fields.close (f : Fields) (byBlank : Bool) : Fields :=
  match f.current with
  | some s => ⟨s.reverse :: f.done, none, byBlank⟩
  | none => f

/-- Add a character to the field in progress. -/
def Fields.push (f : Fields) (c : Char) : Fields :=
  { f with current := some (c :: f.current.getD []), closedByBlank := false }

/-- Take a bit. Separators that are blanks count as one; any other one ends a field, which may be
empty. -/
def Fields.take (separators : Bytes) (f : Fields) (b : Bit) : Fields :=
  match b with
  | .fixed _ c => f.push c
  | .present => { f with current := some (f.current.getD []) }
  | .cut => f.close false
  | .loose c =>
    if !separators.contains c then f.push c
    else if [' ', '\t', '\n'].contains c then f.close true
    else if f.current.isNone && f.closedByBlank then { f with closedByBlank := false }
    else { f with current := some (f.current.getD []) }.close false

/-- Split bits into fields. -/
def fieldsOf (separators : Bytes) (bits : List Bit) : List Bytes :=
  ((bits.foldl (Fields.take separators) ⟨[], none, false⟩).close false).done.reverse

/-- Bits as one text. -/
def textOf (bits : List Bit) : Bytes :=
  bits.flatMap fun b =>
    match b with
    | .fixed _ c | .loose c => [c]
    | .present => []
    | .cut => [' ']

/-- Bits as a pattern. -/
def marksOf (bits : List Bit) : List Mark :=
  bits.flatMap fun b =>
    match b with
    | .fixed q c => [⟨q, c⟩]
    | .loose c => [⟨false, c⟩]
    | .present => []
    | .cut => [⟨false, ' '⟩]

/-- A value as bits. -/
def valueBits (quoted : Bool) (s : Bytes) : List Bit :=
  s.map fun c => if quoted then .fixed true c else .loose c

/-- Separate arguments. -/
def argumentBits (quoted : Bool) (arguments : List Bytes) : List Bit :=
  (arguments.map fun a => (if quoted then [.present] else []) ++ valueBits quoted a).intersperse
    [.cut] |>.flatten

/-! ### Parameters -/

namespace Script

/-- The characters that separate fields. -/
def separators : Script Bytes := do
  return (← value? "IFS".toList).getD " \t\n".toList

/-- The number that the shell goes by as a process. -/
def processNumber : Nat := 4711

/-- The value of a parameter that is no list of arguments. -/
def parameter (name : Bytes) : Script (Option Bytes) := do
  let m ← get
  match String.ofList name with
  | "?" => return some (Nat.toDigits 10 m.status)
  | "#" => return some (Nat.toDigits 10 m.arguments.length)
  | "$" => return some (Nat.toDigits 10 processNumber)
  | "!" => return none
  | "-" => return some ("h".toList ++ (if m.options.strict then ['e'] else []) ++
      (if m.options.setOnly then ['u'] else []) ++ (if m.options.traced then ['x'] else []) ++
      "Bc".toList)
  | "0" => return some m.name
  | "LINENO" => return some (Nat.toDigits 10 m.line)
  | _ =>
    match name with
    | c :: _ =>
      if c.isDigit then return m.arguments[(wideNumber 10 name).getD 0 - 1]? else value? name
    | [] => return none

/-- Complain about a word that cannot be worked out, and end the script. -/
def refuseWord {α : Type} (status : Nat) (s : Bytes) : Script α := do
  complain s
  exit status

end Script

/-- The name of a parameter and what follows it. -/
def cutParameter (s : Bytes) : Option (Bytes × Bytes) :=
  match s with
  | [] => none
  | c :: r =>
    if startsName c then some (s.takeWhile continuesName, s.dropWhile continuesName)
    else if c.isDigit then some (s.takeWhile Char.isDigit, s.dropWhile Char.isDigit)
    else if "?$#@*!-".toList.contains c then some ([c], r)
    else none

/-- What stands before and after the first character of a kind that is not escaped. -/
def cutAtUnescaped (c : Char) : (done : Bytes) → Bytes → Bytes × Option Bytes
  | done, [] => (done.reverse, none)
  | done, '\\' :: d :: r => cutAtUnescaped c (d :: '\\' :: done) r
  | done, d :: r => if d == c then (done.reverse, some r) else cutAtUnescaped c (d :: done) r

/-- A part of a text by place and length; both may count from the end. -/
def slice (s : Bytes) (start : Int) (length : Option Int) : Option Bytes :=
  let size : Int := s.length
  let first := if start < 0 then size + start else start
  if first < 0 || size < first then some []
  else
    match length with
    | none => some (s.drop first.toNat)
    | some n =>
      let stop := if n < 0 then size + n else min size (first + n)
      if stop < first then none else some ((s.take stop.toNat).drop first.toNat)

/-- Change the case of letters that a pattern matches: the first one, or every one. -/
def changeCase (f : Char → Char) (every : Bool) (p : Glob) (s : Bytes) : Bytes :=
  let change (c : Char) : Char := if p.isEmpty || globMatches p [c] then f c else c
  match s with
  | [] => []
  | c :: r => change c :: if every then r.map change else r

/-- Cut the shortest or longest start or end that matches off a text. -/
def cutMatch (fromEnd longest : Bool) (p : Glob) (s : Bytes) : Bytes :=
  let lengths := if fromEnd then endLengths p s else startLengths p s
  match if longest then lengths.getLast? else lengths.head? with
  | none => s
  | some n => if fromEnd then s.take (s.length - n) else s.drop n

/-- Replace what matches: `#` and `%` before the pattern tie it to the start or to the end, and a
slash replaces every match. -/
def replacePattern (kind : Option Char) (p : Glob) (replacement s : Bytes) : Bytes :=
  match kind with
  | some '#' =>
    match (startLengths p s).getLast? with
    | some n => replacement ++ s.drop n
    | none => s
  | some '%' =>
    match (endLengths p s).getLast? with
    | some n => s.take (s.length - n) ++ replacement
    | none => s
  | some _ => replaceMatches p replacement true (s.length + 1) s
  | none => replaceMatches p replacement false (s.length + 1) s

/-- How to run code and take its output. -/
abbrev RunCode := Bytes → Script Bytes

/-- The output of code without its newlines at the end and without bytes zero. -/
def replacedCode (run : RunCode) (code : Bytes) : Script Bytes := do
  let output ← run code
  if output.any (·.toNat == 0) then
    Script.complain "warning: command substitution: ignored null byte in input".toList
  return ((output.filter (·.toNat != 0)).reverse.dropWhile (· == '\n')).reverse

/-- Work out an expression that is written out. -/
def calculated (start : String) (expression : Bytes) : Script (Except Bytes Int) := do
  match calculate (← Script.values) expression with
  | .ok (n, assigned) =>
    for (name, value) in assigned do
      Script.assign name (toString value).toList
    return .ok n
  | .error e => return .error (start.toList ++ e)

mutual

/-- Work out a word. -/
def workOut (run : RunCode) : (fuel : Nat) → Word → Script (List Bit)
  | 0, _ => return []
  | _, [] => return []
  | fuel + 1, piece :: rest => do
    let bits ←
      match piece with
      | .plain c => pure [.fixed false c]
      | .quoted text => pure (.present :: text.map (.fixed true))
      | .parameter quoted text => workOutParameter run quoted text fuel
      | .code quoted _ code => do
        let output ← replacedCode run code
        pure (valueBits quoted output)
      | .arithmetic quoted text => do
        match ← calculated "" (← workOutText run (text.filter (· != '"')) fuel) with
        | .ok n => pure (valueBits quoted (toString n).toList)
        | .error e => Script.refuseWord 1 e
    return bits ++ (← workOut run fuel rest)

/-- Work out a text in which a backslash escapes as in a text in place. -/
def workOutText (run : RunCode) (text : Bytes) : (fuel : Nat) → Script Bytes
  | 0 => return []
  | fuel + 1 => do
    match textWord text with
    | .ok w => return textOf (← workOut run fuel w)
    | .error _ => return []

/-- Work out a word behind an operator of a parameter. -/
def workOutOperand (run : RunCode) (quoted : Bool) (text : Bytes) :
    (fuel : Nat) → Script (List Bit)
  | 0 => return []
  | fuel + 1 => do
    match if quoted then quotation text else wordOf text with
    | .ok w =>
      let bits ← workOut run fuel w
      return bits.map fun b =>
        match b with
        | .fixed false c => .loose c
        | b => b
    | .error _ => return []

/-- Work out a pattern behind an operator of a parameter. -/
def workOutGlob (run : RunCode) (text : Bytes) : (fuel : Nat) → Script Glob
  | 0 => return []
  | fuel + 1 => do
    match wordOf text with
    | .ok w => return glob (marksOf (← workOut run fuel w))
    | .error _ => return []

/-- Work out a parameter. -/
def workOutParameter (run : RunCode) (quoted : Bool) (text : Bytes) :
    (fuel : Nat) → Script (List Bit)
  | 0 => return []
  | fuel + 1 => do
    let bad : Script (List Bit) :=
      Script.refuseWord 1 ("$\x7b".toList ++ text ++ "\x7d: bad substitution".toList)
    match text with
    | '#' :: c :: r =>
      -- the length of a value, or the number of arguments
      match cutParameter (c :: r) with
      | some (name, []) =>
        if name == ['@'] || name == ['*'] then
          return valueBits quoted (Nat.toDigits 10 (← get).arguments.length)
        let value := (← Script.parameter name).getD []
        return valueBits quoted (Nat.toDigits 10 value.length)
      | _ => bad
    | '!' :: c :: r =>
      -- the value names another parameter
      match cutParameter (c :: r) with
      | some (name, []) =>
        let target := (← Script.parameter name).getD []
        return valueBits quoted ((← Script.parameter target).getD [])
      | _ => bad
    | _ =>
      match cutParameter text with
      | none => bad
      | some (name, operation) =>
        let arguments := (← get).arguments
        if (name == ['@'] || name == ['*']) && operation.isEmpty then
          if quoted && name == ['*'] then
            let between := (← Script.separators).take 1
            return .present :: valueBits true (arguments.intersperse between).flatten
          else return argumentBits quoted arguments
        else if name == ['@'] || name == ['*'] then
          -- an operation is done to all arguments as one value
          let all := (arguments.intersperse [' ']).flatten
          let value := if arguments.isEmpty then none else some all
          workOutOperation run quoted text name value operation fuel
        else
          let value ← Script.parameter name
          workOutOperation run quoted text name value operation fuel

/-- Work out what is done to the value of a parameter. -/
def workOutOperation (run : RunCode) (quoted : Bool) (text name : Bytes) (value : Option Bytes)
    (operation : Bytes) : (fuel : Nat) → Script (List Bit)
  | 0 => return []
  | fuel + 1 => do
    let bits (s : Bytes) : List Bit := valueBits quoted s
    let isSet (colon : Bool) : Bool :=
      match value with
      | none => false
      | some v => !colon || !v.isEmpty
    -- with a colon, an empty value counts as none
    let (colon, rest) :=
      match operation with
      | ':' :: c :: r => if "-=?+".toList.contains c then (true, c :: r) else (false, operation)
      | _ => (false, operation)
    let old := value.getD []
    match rest with
    | [] =>
      match value with
      | some v => return bits v
      | none =>
        if (← get).options.setOnly then
          let shown := if name.head?.any Char.isDigit then '$' :: name else name
          Script.refuseWord 127 (shown ++ ": unbound variable".toList)
        else return []
    | '-' :: w =>
      if isSet colon then return bits old else workOutOperand run quoted w fuel
    | '+' :: w => if isSet colon then workOutOperand run quoted w fuel else return []
    | '=' :: w =>
      if isSet colon then return bits old
      else
        let new := textOf (← workOutOperand run quoted w fuel)
        Script.assign name new
        return bits new
    | '?' :: w =>
      if isSet colon then return bits old
      else
        let message := textOf (← workOutOperand run quoted w fuel)
        let usual := if colon then "parameter null or not set" else "parameter not set"
        Script.refuseWord 127
          (name ++ ": ".toList ++ if message.isEmpty then usual.toList else message)
    | '#' :: '#' :: w => return bits (cutMatch false true (← workOutGlob run w fuel) old)
    | '#' :: w => return bits (cutMatch false false (← workOutGlob run w fuel) old)
    | '%' :: '%' :: w => return bits (cutMatch true true (← workOutGlob run w fuel) old)
    | '%' :: w => return bits (cutMatch true false (← workOutGlob run w fuel) old)
    | '^' :: '^' :: w =>
      return bits (changeCase Char.toUpper true (← workOutGlob run w fuel) old)
    | '^' :: w =>
      return bits (changeCase Char.toUpper false (← workOutGlob run w fuel) old)
    | ',' :: ',' :: w =>
      return bits (changeCase Char.toLower true (← workOutGlob run w fuel) old)
    | ',' :: w =>
      return bits (changeCase Char.toLower false (← workOutGlob run w fuel) old)
    | '/' :: w =>
      let (kind, w) :=
        match w with
        | c :: r => if ['/', '#', '%'].contains c then (some c, r) else (none, w)
        | [] => (none, [])
      let (pattern, replacement) := cutAtUnescaped '/' [] w
      let p ← workOutGlob run pattern fuel
      let new := textOf (← workOutOperand run quoted (replacement.getD []) fuel)
      return bits (replacePattern kind p new old)
    | ':' :: w =>
      let (start, length) := cutAtUnescaped ':' [] w
      let startText ← workOutText run start fuel
      let lengthText ← workOutText run (length.getD []) fuel
      match ← calculated "" startText, ← calculated "" lengthText with
      | .ok a, .ok n =>
        match slice old a (length.map fun _ => n) with
        | some s => return bits s
        | none => Script.refuseWord 1 (lengthText ++ ": substring expression < 0".toList)
      | .error e, _ | _, .error e => Script.refuseWord 1 e
    | _ => Script.refuseWord 1 ("$\x7b".toList ++ text ++ "\x7d: bad substitution".toList)

end

/-! ### Words of commands -/

/-- How deep words may lie in one another. -/
def deepestWord : Nat := 100000

/-- Drop the quotation marks around nothing but all arguments: without arguments, there is no
field. -/
def bareArguments : Word → Word
  | [.quoted [], .parameter true ['@']] => [.parameter true ['@']]
  | w => w

/-- Work out the words of a command: fields. -/
def expandWords (run : RunCode) (words : List Word) : Script (List Bytes) := do
  let each ← (words.flatMap fun w => braceChoices (w.length + 1) w).mapM fun w => do
    return fieldsOf (← Script.separators) (← workOut run deepestWord (bareArguments w))
  return each.flatten

/-- Work out a word as one text. -/
def expandText (run : RunCode) (w : Word) : Script Bytes := do
  return textOf (← workOut run deepestWord w)

/-- Work out a word as a pattern. -/
def expandGlob (run : RunCode) (w : Word) : Script Glob := do
  return glob (marksOf (← workOut run deepestWord w))

/-- Work out an expression. -/
def expandExpression (run : RunCode) (text : Bytes) : Script Bytes :=
  workOutText run (text.filter (· != '"')) deepestWord

end Tutor.Shell
