import Tutor.Shell.Test

namespace Tutor.Shell

/-!
# Programs that scripts call

Small filters. Each one is a function of its arguments, its input and what it sees of the files and
the environment.

* `Surroundings` and `ToolResult` are what such a program finds and leaves;
* `tool?` gives the program of a name.
-/

/-- What a program finds. -/
structure Surroundings where
  files : Files
  environment : Table Bytes Bytes
  input : Bytes

/-- What a program leaves; `readsInput` tells that it has read all its input. -/
structure ToolResult where
  output : Bytes
  errors : List Bytes
  status : Nat
  readsInput : Bool

/-- A program. -/
abbrev Tool := Surroundings → List Bytes → ToolResult

/-- Output, and no failure. -/
def ToolResult.success (s : Bytes) (readsInput : Bool) : ToolResult :=
  ⟨s, [], 0, readsInput⟩

/-! ### Lines -/

/-- The lines of a text with their newlines; the last one may lack it. -/
def fullLines : (line : Bytes) → Bytes → List Bytes
  | [], [] => []
  | line, [] => [line.reverse]
  | line, '\n' :: r => ('\n' :: line).reverse :: fullLines [] r
  | line, c :: r => fullLines (c :: line) r

/-- A line without its newline. -/
def bare (line : Bytes) : Bytes :=
  if line.getLast? == some '\n' then line.dropLast else line

/-- A line with a newline. -/
def ended (line : Bytes) : Bytes :=
  bare line ++ ['\n']

/-- A number with blanks before it up to a width. -/
def columnNumber (width n : Nat) : Bytes :=
  let digits := Nat.toDigits 10 n
  List.replicate (width - digits.length) ' ' ++ digits

/-! ### Arguments -/

/-- The arguments of a program: options with their values, and the other words. -/
structure ToolArguments where
  /-- The newest first. -/
  options : List (Char × Bytes)
  words : List Bytes

/-- Read the arguments of a program; `valued` lists the options that take a value. -/
def toolArguments (valued : List Char) : (fuel : Nat) → List Bytes → ToolArguments
  | 0, _ | _, [] => ⟨[], []⟩
  | _, ['-', '-'] :: rest => ⟨[], rest⟩
  | fuel + 1, ('-' :: c :: more) :: rest =>
    if valued.contains c then
      match more, rest with
      | [], value :: rest =>
        let a := toolArguments valued fuel rest
        { a with options := a.options ++ [(c, value)] }
      | more, rest =>
        let a := toolArguments valued fuel rest
        { a with options := a.options ++ [(c, more)] }
    else
      let a := toolArguments valued fuel rest
      { a with options := a.options ++ (c :: more).reverse.map fun o => (o, []) }
  | fuel + 1, w :: rest =>
    let a := toolArguments valued fuel rest
    { a with words := w :: a.words }

/-- An option is given. -/
def ToolArguments.has (a : ToolArguments) (c : Char) : Bool :=
  a.options.any (·.1 == c)

/-- The value of an option. -/
def ToolArguments.value? (a : ToolArguments) (c : Char) : Option Bytes :=
  a.options.lookup c

/-- Apply a function to the content of files, or to the input. -/
def filter (name : String) (f : ToolArguments → Bytes → Bytes) (valued : List Char) : Tool :=
  fun s arguments =>
    let a := toolArguments valued (arguments.length + 1) arguments
    if a.words.isEmpty then .success (f a s.input) true
    else
      let parts := a.words.map fun w =>
        if w == ['-'] then (s.input, none)
        else
          match s.files.readBytes (pathOf w) with
          | .ok b => (b.map fun c => byte c.toNat, none)
          | .error e => ([], some ((name ++ ": ").toList ++ w ++ (": " ++ e.why.text).toList))
      let errors := parts.filterMap (·.2)
      { output := f a (parts.map (·.1)).flatten
        errors := errors
        status := if errors.isEmpty then 0 else 1
        readsInput := a.words.contains ['-'] }

/-! ### Filters -/

/-- Everything as it is, or with the numbers of the lines. -/
def catText (a : ToolArguments) (s : Bytes) : Bytes :=
  if a.has 'n' then
    (fullLines [] s).zipIdx.flatMap fun l => columnNumber 6 (l.2 + 1) ++ '\t' :: l.1
  else s

/-- A count in an option: a number, or the digits of the option itself. -/
def countOption (a : ToolArguments) (default : Nat) : Nat :=
  match a.value? 'n' with
  | some v => ((wholeNumber? v).getD default).natAbs
  | none =>
    let digits := (a.options.map (·.1)).reverse.filter Char.isDigit
    if digits.isEmpty then default else (wideNumber 10 digits).getD default

/-- The first lines or bytes. -/
def headText (a : ToolArguments) (s : Bytes) : Bytes :=
  match a.value? 'c' with
  | some v => s.take ((wholeNumber? v).getD 0).natAbs
  | none => ((fullLines [] s).take (countOption a 10)).flatten

/-- The last lines or bytes, or those from one on. -/
def tailText (a : ToolArguments) (s : Bytes) : Bytes :=
  let last {α : Type} (n : Nat) (l : List α) : List α := l.drop (l.length - n)
  match a.value? 'c', a.value? 'n' with
  | some v, _ => last ((wholeNumber? v).getD 0).natAbs s
  | none, some ('+' :: v) => ((fullLines [] s).drop ((wideNumber 10 v).getD 1 - 1)).flatten
  | none, _ => (last (countOption a 10) (fullLines [] s)).flatten

/-- The number of words. -/
def wordCount : (inWord : Bool) → Bytes → Nat
  | _, [] => 0
  | inWord, c :: r =>
    if isSpace c then wordCount false r else (if inWord then 0 else 1) + wordCount true r

/-- Counts of lines, words and bytes. -/
def countText (a : ToolArguments) (s : Bytes) : Bytes :=
  let all := !a.has 'l' && !a.has 'w' && !a.has 'c' && !a.has 'm'
  let counts :=
    (if all || a.has 'l' then [s.count '\n'] else []) ++
      (if all || a.has 'w' then [wordCount false s] else []) ++
      (if all || a.has 'c' || a.has 'm' then [s.length] else [])
  match counts with
  | [n] => Nat.toDigits 10 n ++ ['\n']
  | counts => ((counts.map (columnNumber 7)).intersperse [' ']).flatten ++ ['\n']

/-- The order of two lines, by their numbers or by their bytes. -/
def lineLe (byNumber : Bool) (a b : Bytes) : Bool :=
  if byNumber then
    let x := (readInteger a).value
    let y := (readInteger b).value
    x < y || (x == y && !isBefore b a)
  else !isBefore b a

/-- Lines without those that repeat the one before. -/
def dropRepeats : List Bytes → List Bytes
  | a :: b :: rest => if a == b then dropRepeats (b :: rest) else a :: dropRepeats (b :: rest)
  | l => l

/-- The lines in order. -/
def sortText (a : ToolArguments) (s : Bytes) : Bytes :=
  let lines := ((fullLines [] s).map bare).mergeSort (lineLe (a.has 'n'))
  let lines := if a.has 'u' then dropRepeats lines else lines
  ((if a.has 'r' then lines.reverse else lines).map ended).flatten

/-- Lines that repeat the one before are counted or dropped. -/
def uniqText (a : ToolArguments) (s : Bytes) : Bytes :=
  let groups := ((fullLines [] s).map bare).splitBy (· == ·)
  groups.flatMap fun g =>
    (if a.has 'c' then columnNumber 7 g.length ++ [' '] else []) ++ ended (g.headD [])

/-- The lines from the last one on. -/
def reverseLines (_ : ToolArguments) (s : Bytes) : Bytes :=
  (fullLines [] s).reverse.flatten

/-- Each line from its end on. -/
def reverseText (_ : ToolArguments) (s : Bytes) : Bytes :=
  (fullLines [] s).flatMap fun l =>
    (bare l).reverse ++ if l.getLast? == some '\n' then ['\n'] else []

/-- The ranges of a list such as `1,3-5`. -/
def rangesOf (s : Bytes) : List (Nat × Option Nat) :=
  (s.splitBy fun a b => a != ',' && b != ',').filterMap fun part =>
    if part == [','] then none
    else
      let first := part.takeWhile (· != '-')
      let start := (wideNumber 10 first).getD 1
      match part.dropWhile (· != '-') with
      | [] => some (start, some start)
      | [_] => some (if first.isEmpty then 1 else start, none)
      | _ :: last => some (if first.isEmpty then 1 else start, wideNumber 10 last)

/-- The items at places that ranges hold, counted from one. -/
def itemsIn {α : Type} (ranges : List (Nat × Option Nat)) (items : List α) : List α :=
  let holds (place : Nat) (r : Nat × Option Nat) : Bool :=
    r.1 ≤ place && (r.2.all fun last => place ≤ last)
  items.zipIdx.filterMap fun x => if ranges.any (holds (x.2 + 1)) then some x.1 else none

/-- A text cut at a character. -/
def cutAt (c : Char) : (part : Bytes) → Bytes → List Bytes
  | part, [] => [part.reverse]
  | part, d :: r => if d == c then part.reverse :: cutAt c [] r else cutAt c (d :: part) r

/-- Fields or characters of each line. -/
def cutText (a : ToolArguments) (s : Bytes) : Bytes :=
  let separator := ((a.value? 'd').bind List.head?).getD '\t'
  (fullLines [] s).flatMap fun l =>
    ended <|
      match a.value? 'f', a.value? 'c' with
      | some f, _ =>
        let parts := cutAt separator [] (bare l)
        if parts.length ≤ 1 then bare l
        else ((itemsIn (rangesOf f) parts).intersperse [separator]).flatten
      | none, some c => itemsIn (rangesOf c) (bare l)
      | none, none => bare l

/-- The characters of a set such as `a-z`. Each range takes some `fuel`. -/
def setMembers : (fuel : Nat) → Bytes → Bytes
  | 0, _ | _, [] => []
  | fuel + 1, a :: '-' :: b :: r =>
    (List.range (b.toNat + 1 - a.toNat)).map (fun i => byte (a.toNat + i)) ++ setMembers fuel r
  | fuel + 1, '\\' :: r =>
    match readEscape .format r with
    | .text t rest => t ++ setMembers fuel rest
    | _ => '\\' :: setMembers fuel r
  | fuel + 1, c :: r => c :: setMembers fuel r

/-- A set with the named classes that letters come in. -/
def characterSet (s : Bytes) : Bytes :=
  match String.ofList s with
  | "[:lower:]" => "abcdefghijklmnopqrstuvwxyz".toList
  | "[:upper:]" => "ABCDEFGHIJKLMNOPQRSTUVWXYZ".toList
  | "[:digit:]" => "0123456789".toList
  | "[:space:]" => " \t\n".toList ++ [byte 11, byte 12, byte 13]
  | _ => setMembers (s.length + 1) s

/-- Members of a set that follow themselves count once. -/
def squeezed (members : Bytes) : Bytes → Bytes
  | a :: b :: r =>
    if a == b && members.contains a then squeezed members (b :: r)
    else a :: squeezed members (b :: r)
  | s => s

/-- Characters in place of others. -/
def exchange : Tool := fun s arguments =>
  let a := toolArguments [] (arguments.length + 1) arguments
  let result :=
    match a.words.map characterSet with
    | [old] =>
      let kept := if a.has 'd' then s.input.filter (!old.contains ·) else s.input
      if a.has 's' && !a.has 'd' then squeezed old kept else kept
    | old :: fresh :: _ =>
      let new (c : Char) : Char :=
        match old.idxOf? c with
        | some i => (fresh[i]?).getD (fresh.getLast?.getD c)
        | none => c
      let changed := s.input.map new
      if a.has 's' then squeezed fresh changed else changed
    | [] => s.input
  .success result true

/-! ### Other programs -/

/-- Numbers in a row. -/
def numbers : Tool := fun _ arguments =>
  let separator :=
    match arguments with
    | ('-' :: 's' :: t) :: _ => if t.isEmpty then ((arguments.drop 1).headD []) else t
    | _ => ['\n']
  let words :=
    match arguments with
    | ['-', 's'] :: _ :: rest => rest
    | ('-' :: 's' :: _) :: rest => rest
    | rest => rest
  let row (first step last : Int) : List Int :=
    if step = 0 || (0 < step && last < first) || (step < 0 && first < last) then []
    else span first last step.natAbs
  let items :=
    match words.map wholeNumber? with
    | [some n] => row 1 1 n
    | [some a, some b] => row a 1 b
    | [some a, some s, some b] => row a s b
    | _ => []
  let text := ((items.map fun n => (toString n).toList).intersperse separator).flatten
  .success (if items.isEmpty then [] else text ++ ['\n']) false

/-- A path without its last slashes. -/
def withoutSlashes (s : Bytes) : Bytes :=
  let cut := (s.reverse.dropWhile (· == '/')).reverse
  if cut.isEmpty && !s.isEmpty then ['/'] else cut

/-- The last name of a path, without an ending. -/
def lastName : Tool := fun _ arguments =>
  let s := withoutSlashes (arguments.headD [])
  let name := if s == ['/'] then s else (s.reverse.takeWhile (· != '/')).reverse
  let ending := (arguments.drop 1).headD []
  let cut :=
    if ending.isSuffixOf name && ending != name then name.take (name.length - ending.length)
    else name
  .success (cut ++ ['\n']) false

/-- The directory of a path. -/
def directoryName : Tool := fun _ arguments =>
  let s := withoutSlashes (arguments.headD [])
  let start := (s.reverse.dropWhile (· != '/')).reverse
  .success ((if start.isEmpty then ['.'] else withoutSlashes start) ++ ['\n']) false

/-- The environment, or one of its variables. -/
def printEnvironment : Tool := fun s arguments =>
  match arguments with
  | [] => .success (s.environment.flatMap fun v => v.1 ++ '=' :: (v.2 ++ ['\n'])) false
  | name :: _ =>
    match Table.get? s.environment name with
    | some v => .success (v ++ ['\n']) false
    | none => ⟨[], [], 1, false⟩

/-- The names in a directory. -/
def namesIn (files : Files) (directory : Spot) : List String :=
  let inside := files.entries.filterMap fun f =>
    if f.1.dropLast == directory then f.1.getLast? else none
  inside.mergeSort fun a b => !decide (b < a)

/-- Lists files and the names in directories. -/
def listFiles : Tool := fun s arguments =>
  let words := (toolArguments [] (arguments.length + 1) arguments).words
  let words := if words.isEmpty then [['.']] else words
  let parts := words.map fun w =>
    match s.files.lookup (pathOf w), s.files.locate (pathOf w) with
    | .ok .directory, .ok spot => (true, (namesIn s.files spot).map String.toList)
    | .ok _, _ => (true, [w])
    | .error why, _ =>
      (false, ["ls: cannot access ".toList ++ '\'' :: w ++ ("': " ++ why.text).toList])
  { output := ((parts.filter (·.1)).flatMap (·.2)).flatMap ended
    errors := (parts.filter fun p => !p.1).flatMap (·.2)
    status := if parts.all (·.1) then 0 else 2
    readsInput := false }

/-- The program of a name. -/
def tool? (name : String) : Option Tool :=
  match name with
  | "cat" => some (filter name catText [])
  | "head" => some (filter name headText ['n', 'c'])
  | "tail" => some (filter name tailText ['n', 'c'])
  | "wc" => some (filter name countText [])
  | "sort" => some (filter name sortText ['k', 't'])
  | "uniq" => some (filter name uniqText [])
  | "tac" => some (filter name reverseLines [])
  | "rev" => some (filter name reverseText [])
  | "cut" => some (filter name cutText ['d', 'f', 'c', 'b'])
  | "tr" => some exchange
  | "seq" => some numbers
  | "basename" => some lastName
  | "dirname" => some directoryName
  | "env" | "printenv" => some printEnvironment
  | "ls" => some listFiles
  | "sleep" => some fun _ _ => .success [] false
  | _ => none

end Tutor.Shell
