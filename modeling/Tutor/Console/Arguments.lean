import Tutor.Console.Help
import Tutor.Text.Digits

namespace Tutor.Console

/-!
# Command lines

A command line holds options, then a command with its own words.

* `Word.of?` tells options from other words; options may be cut short and short ones joined;
* `cluster` reads the flags that one word switches;
* `parseCommand` reads the words of a command;
* `parseArguments` reads a command line, or says why it is not carried out.
-/

/-- What an option switches. -/
inductive Switch
  | help
  | lessonsFile
  | database
  | verbose
  deriving DecidableEq, Repr

/-- The option takes a value. -/
def Switch.takesValue : Switch → Bool
  | .lessonsFile | .database => true
  | .help | .verbose => false

/-- The ways to write options. -/
abbrev Spellings := List (String × Switch)

/-- The options of the program. -/
def programOptions : Spellings :=
  [("-h", .help), ("--help", .help), ("--lessons-file", .lessonsFile), ("--db", .database),
   ("-v", .verbose), ("--verbose", .verbose)]

/-- The options of each command. -/
def commandOptions : Spellings :=
  [("-h", .help), ("--help", .help)]

/-- What is joined to an option in the same word, and whether an equals sign stands before it. -/
structure Joined where
  marked : Bool
  text : List Char
  deriving DecidableEq, Repr

/-- A word of a command line. -/
inductive Word
  | plain
  | option (s : Switch) (long : Bool) (joined : Option Joined)
  | unknown
  deriving DecidableEq, Repr

/-- Why a command line is not carried out. -/
inductive Refusal
  /-- It makes no sense. -/
  | usage
  /-- It asks for help. -/
  | help (page : String)
  deriving DecidableEq, Repr

/-! ### Words -/

/-- A negative number, whole or with a fraction. -/
def isNegativeNumber (s : List Char) : Bool :=
  match s with
  | '-' :: r =>
    let r := if r.getLast? == some '\n' then r.dropLast else r
    let digit (c : Char) : Bool := Text.isDecimalDigit c.toNat
    match r.dropWhile digit with
    | [] => !r.isEmpty
    | '.' :: fraction => !fraction.isEmpty && fraction.all digit
    | _ => false
  | _ => false

/-- What stands before and after the first equals sign. -/
def cutAtEquals (s : List Char) : List Char × Option Joined :=
  match s.dropWhile (· != '=') with
  | [] => (s, none)
  | _ :: r => (s.takeWhile (· != '='), some ⟨true, r⟩)

/-- The options that start with a text. -/
def startingWith (options : Spellings) (s : List Char) : Spellings :=
  options.filter fun o => s.isPrefixOf o.1.toList

/-- A word that is no option: negative numbers and words with a space are plain. -/
def Word.other (s : List Char) : Word :=
  if isNegativeNumber s || s.contains ' ' then .plain else .unknown

/-- A word that starts with two hyphens: an option, perhaps cut short; none if several fit. -/
def Word.long? (options : Spellings) (s : List Char) : Option Word :=
  let (name, joined) := cutAtEquals s
  match startingWith options name with
  | [] => some (.other s)
  | [(_, switch)] => some (.option switch true joined)
  | _ => none

/-- A word that starts with one hyphen: an option of one letter with more joined to it. -/
def Word.short (options : Spellings) (s : List Char) : Word :=
  match options.lookup (String.ofList (s.take 2)) with
  | some switch => .option switch false (some ⟨false, s.drop 2⟩)
  | none => .other s

/-- The option is written with two hyphens. -/
def isLong (s : List Char) : Bool :=
  ['-', '-'].isPrefixOf s

/-- A word; none if it could be several options. -/
def Word.of? (options : Spellings) (word : String) : Option Word :=
  let s := word.toList
  match options.lookup word with
  | some switch => some (.option switch (isLong s) none)
  | none =>
    match s with
    | '-' :: _ :: _ =>
      let (name, joined) := cutAtEquals s
      match joined, options.lookup (String.ofList name) with
      | some j, some switch => some (.option switch (isLong s) (some j))
      | _, _ => if isLong s then Word.long? options s else some (Word.short options s)
    | _ => some .plain

/-! ### Flags -/

/-- The flags that one word switches, and whether something unknown is left. The first flag is
followed by what is joined to it: more flags of one letter. -/
def cluster (options : Spellings) (switch : Switch) : (marked : Bool) → List Char →
    Except Refusal (List Switch × Bool)
  | _, [] => .error .usage
  | marked, c :: r =>
    if marked || c = '-' then .error .usage
    else
      match options.lookup (String.ofList ['-', c]), r with
      | none, _ => .ok ([switch], true)
      | some next, [] => .ok ([switch, next], false)
      | some _, '=' :: _ => .error .usage
      | some next, r => (cluster options next false r).map fun x => (switch :: x.1, x.2)

/-- The flags of a word that starts with a flag. -/
def flagsOf (options : Spellings) (switch : Switch) (long : Bool) (joined : Option Joined) :
    Except Refusal (List Switch × Bool) :=
  match joined with
  | none => .ok ([switch], false)
  | some j => if long then .error .usage else cluster options switch j.marked j.text

/-! ### Commands -/

/-- What the program is to do. An argument is none where a second `--` stands in its place. -/
inductive Command
  | lessons
  | play (lesson : Option String)
  | describe (lesson task : Option String)
  | attempt (lesson task input : Option String)
  deriving DecidableEq, Repr

/-- A command line. -/
structure Arguments where
  lessonsFile : Option String
  database : String
  verbose : Bool
  command : Command
  deriving DecidableEq, Repr

/-- The plain words of a command. -/
structure Positionals where
  before : List String
  /-- The words after the first `--`, if there is one. -/
  after : Option (List String)
  /-- Something is left that the command does not know. -/
  extra : Bool
  deriving DecidableEq, Repr

/-- Collect the plain words of a command. -/
def positionals (page : String) : List String → Except Refusal Positionals
  | [] => .ok ⟨[], none, false⟩
  | "--" :: rest => .ok ⟨[], some rest, false⟩
  | word :: rest =>
    match Word.of? commandOptions word with
    | none => .error .usage
    | some .plain => (positionals page rest).map fun p => { p with before := word :: p.before }
    | some .unknown => (positionals page rest).map fun p => { p with extra := true }
    | some (.option s long joined) =>
      match flagsOf commandOptions s long joined with
      | .error e => .error e
      | .ok _ => .error (.help page)

/-- The arguments among plain words. The first `--` is dropped with the argument it stands by; in
the place of a later argument, another `--` leaves nothing. -/
def Positionals.arguments (p : Positionals) : List (Option String) :=
  match p.before, p.after.getD [] with
  | [], first :: rest => some first :: rest.map fun w => if w == "--" then none else some w
  | before, after => before.map some ++ after.map fun w => if w == "--" then none else some w

/-- Read the words of a command. -/
def parseCommand (name : String) (words : List String) : Except Refusal Command := do
  match name with
  | "lessons" =>
    let p ← positionals Help.lessons words
    if p.extra || p.after.isSome || !p.before.isEmpty then .error .usage else .ok .lessons
  | "play" =>
    let p ← positionals Help.play words
    match p.extra, p.arguments with
    | false, [] => .ok (.play none)
    | false, [lesson] => .ok (.play lesson)
    | _, _ => .error .usage
  | "describe" =>
    let p ← positionals Help.describe words
    match p.extra, p.arguments with
    | false, [lesson, task] => .ok (.describe lesson task)
    | _, _ => .error .usage
  | "attempt" =>
    let p ← positionals Help.attempt words
    match p.extra, p.arguments with
    | false, [lesson, task, input] => .ok (.attempt lesson task input)
    | _, _ => .error .usage
  | _ => .error .usage

/-! ### Command lines -/

/-- Without options, the database lies below the working directory. -/
def defaultDatabase : String := ".showmehow/settings.db"

/-- Without a command, the program plays. -/
def Arguments.default : Arguments :=
  { lessonsFile := none, database := defaultDatabase, verbose := false, command := .play none }

/-- Give an option its value. -/
def Arguments.setValue (a : Arguments) (s : Switch) (value : String) : Arguments :=
  match s with
  | .lessonsFile => { a with lessonsFile := some value }
  | .database => { a with database := value }
  | .help | .verbose => a

/-- Switch flags; asking for help ends it. -/
def Arguments.switchAll (a : Arguments) : List Switch → Except Refusal Arguments
  | [] => .ok a
  | .help :: _ => .error (.help Help.program)
  | _ :: rest => { a with verbose := true }.switchAll rest

/-- Read words after those that led to `a`; `extra` tells whether something unknown was among
them. -/
def parseWords (a : Arguments) (extra : Bool) : List String → Except Refusal Arguments
  | [] => if extra then .error .usage else .ok a
  | word :: rest =>
    if word == "--" then .error .usage
    else
      match Word.of? programOptions word with
      | none => .error .usage
      | some .unknown => parseWords a true rest
      | some .plain => do
        -- all that follows the name of a command belongs to the command
        let command ← parseCommand word rest
        if extra then .error .usage else .ok { a with command := command }
      | some (.option s long joined) =>
        if s.takesValue then
          match joined, rest with
          | some j, rest => parseWords (a.setValue s (String.ofList j.text)) extra rest
          | none, value :: rest =>
            -- what looks like an option is no value
            if value != "--" && Word.of? programOptions value == some .plain then
              parseWords (a.setValue s value) extra rest
            else .error .usage
          | none, [] => .error .usage
        else
          match flagsOf programOptions s long joined with
          | .error e => .error e
          | .ok (switches, left) =>
            match a.switchAll switches with
            | .error e => .error e
            | .ok a => parseWords a (extra || left) rest

/-- Every word up to the first `--` is plain, unknown or one option. -/
def isUnambiguous (words : List String) : Bool :=
  (words.takeWhile (· != "--")).all fun w => (Word.of? programOptions w).isSome

/-- Read a command line. -/
def parseArguments (words : List String) : Except Refusal Arguments :=
  if isUnambiguous words then parseWords .default false words else .error .usage

end Tutor.Console
