import Tutor.Shell.Number

namespace Tutor.Shell

/-!
# Formatted output

The format of `printf`: text with directives, each of which takes arguments.

* `Directive` is a directive, `Directive.read` reads one;
* `Printing` is the state of the output, `printOnce` follows a format once;
* `formatted` follows it until no argument is left.
-/

/-- A directive. -/
structure Directive where
  flags : Bytes
  width : Option Nat
  precision : Option Nat
  conversion : Char
  deriving DecidableEq, Repr

/-- A flag is set. -/
def Directive.has (d : Directive) (flag : Char) : Bool :=
  d.flags.contains flag

/-! ### Layout -/

/-- Fill up with blanks to the width. -/
def Directive.pad (d : Directive) (s : Bytes) : Bytes :=
  let blanks := List.replicate (d.width.getD 0 - s.length) ' '
  if d.has '-' then s ++ blanks else blanks ++ s

/-- Fill up a number with blanks, or with zeros after what stands before its digits. -/
def Directive.padNumber (d : Directive) (zeros : Bool) (start digits : Bytes) : Bytes :=
  if zeros && d.has '0' && !d.has '-' then
    let count := d.width.getD 0 - (start.length + digits.length)
    start ++ (Decimal.zeros count ++ digits)
  else d.pad (start ++ digits)

/-- The sign of a number. -/
def Directive.sign (d : Directive) (negative : Bool) : Bytes :=
  if negative then ['-'] else if d.has '+' then ['+'] else if d.has ' ' then [' '] else []

/-- Digits with zeros before them up to the precision; zero itself may have none. -/
def Directive.digits (d : Directive) (base n : Nat) : Bytes :=
  let s := if n = 0 && d.precision == some 0 then [] else Nat.toDigits base n
  Decimal.zeros (d.precision.getD 1 - s.length) ++ s

/-- A whole number with a sign. -/
def Directive.signed (d : Directive) (n : Int) : Bytes :=
  d.padNumber d.precision.isNone (d.sign (n < 0)) (d.digits 10 n.natAbs)

/-- A whole number of 64 bits without a sign. -/
def Directive.unsigned (d : Directive) (n : Int) : Bytes :=
  let n := (n % (Nat.pow 2 64 : Int)).toNat
  let zeros := d.precision.isNone
  match d.conversion with
  | 'o' =>
    let s := d.digits 8 n
    d.padNumber zeros [] (if d.has '#' && s.head? != some '0' then '0' :: s else s)
  | 'x' => d.padNumber zeros (if d.has '#' && n ≠ 0 then "0x".toList else []) (d.digits 16 n)
  | 'X' =>
    d.padNumber zeros (if d.has '#' && n ≠ 0 then "0X".toList else [])
      ((d.digits 16 n).map Char.toUpper)
  | _ => d.padNumber zeros [] (d.digits 10 n)

/-- A real number. -/
def Directive.real (d : Directive) (x : Real) : Bytes :=
  let precision := d.precision.getD 6
  let s :=
    match x with
    | .finite negative num den =>
      let digits :=
        match d.conversion.toLower with
        | 'f' => Real.fixed precision (d.has '#') num den
        | 'e' => Real.scientific precision (d.has '#') num den
        | _ => Real.general precision (d.has '#') num den
      d.padNumber true (d.sign negative) digits
    | .infinite negative => d.pad (d.sign negative ++ "inf".toList)
    | .nan negative => d.pad (d.sign negative ++ "nan".toList)
  if d.conversion.isUpper then s.map Char.toUpper else s

/-! ### Quoting -/

/-- Characters that mean something to the shell. -/
def specialChars : Bytes :=
  " \t'\"\\|&;()<>!\x7b\x7d*[]?^$`,".toList

/-- A character inside `$'…'`. -/
def literalChar (c : Char) : Bytes :=
  if c == '\'' || c == '\\' then ['\\', c]
  else if c.toNat == 27 then ['\\', 'E']
  else if 32 ≤ c.toNat && c.toNat < 127 then [c]
  else
    match letterEscapes.find? fun e => e.2 == c.toNat with
    | some (letter, _) => ['\\', letter]
    | none =>
      let digits := Nat.toDigits 8 c.toNat
      '\\' :: (Decimal.zeros (3 - digits.length) ++ digits)

/-- A text as the shell reads it back. -/
def readable (s : Bytes) : Bytes :=
  if s.isEmpty then ['\'', '\'']
  else if s.any fun c => c.toNat < 32 || 127 ≤ c.toNat then
    '$' :: '\'' :: (s.flatMap literalChar ++ ['\''])
  else
    s.zipIdx.flatMap fun c =>
      if specialChars.contains c.1 || (c.2 == 0 && (c.1 == '#' || c.1 == '~')) then ['\\', c.1]
      else [c.1]

/-! ### Following a format -/

/-- The state of the output. -/
structure Printing where
  arguments : List Bytes
  /-- What has been put out, the newest first. -/
  output : List Bytes
  /-- What is wrong, the newest first. -/
  complaints : List Bytes
  /-- Nothing more is put out. -/
  stopped : Bool

/-- An action on the output. -/
abbrev Print := StateM Printing

namespace Print

/-- Put out a text. -/
def put (s : Bytes) : Print Unit :=
  modify fun p => { p with output := s :: p.output }

/-- Complain. -/
def complain (s : Bytes) : Print Unit :=
  modify fun p => { p with complaints := s :: p.complaints }

/-- Put out nothing more. -/
def stop : Print Unit :=
  modify fun p => { p with stopped := true }

/-- Take an argument. After the last one, arguments are empty. -/
def argument : Print Bytes := do
  let p ← get
  match p.arguments with
  | [] => return []
  | a :: rest =>
    set { p with arguments := rest }
    return a

/-- Complain about what lacks digits after a backslash. -/
def complainLacking (letters : List Char) : Print Unit :=
  letters.forM fun c =>
    let kind := if c == 'x' then "hex" else "unicode"
    complain (s!"missing {kind} digit for \\".toList ++ [c])

/-- Complain about what is no number. -/
def complainNumber (s : Bytes) : Print Unit :=
  let kind :=
    match s with
    | '0' :: c :: _ =>
      if c == 'x' then "hex number" else if c.isDigit then "octal number" else "number"
    | _ => "number"
  complain (s ++ s!": invalid {kind}".toList)

/-- Take a number: the number of a character after a quotation mark, or what `read` reads. Nothing
counts as zero. -/
def number {α : Type} (read : Bytes → Parsed α) (ofChar : Nat → α) : Print α := do
  match ← argument with
  | [] => return ofChar 0
  | '\'' :: r | '"' :: r => return ofChar ((r.head?.map Char.toNat).getD 0)
  | s =>
    let n := read s
    if !n.rest.isEmpty then complainNumber s
    return n.value

/-- Take a whole number below a bound, and not below the bound's negation; one out of that range
becomes the nearest in it. -/
def integerBelow (bound : Nat) : Print Int := do
  let before ← get
  let n ← number readInteger Int.ofNat
  let least : Int := -bound
  let greatest : Int := bound - 1
  if n < least || greatest < n then
    let s := before.arguments.headD []
    complain ("warning: ".toList ++ s ++ ": Numerical result out of range".toList)
  return max least (min greatest n)

end Print

/-- A number in a directive: digits, or an argument in place of `*`. -/
def readSize (s : Bytes) : Print (Option Int × Bytes) := do
  match s with
  | '*' :: r =>
    let n ← Print.integerBelow (Nat.pow 2 31)
    return (some n, r)
  | s =>
    if startsWithDigit 10 s then
      let (n, r) := readDigits 10 s.length 0 s
      return (some n, r)
    else return (none, s)

/-- Letters between the sizes and the conversion, which change nothing. -/
def lengthLetters : Bytes := "hlLjzt".toList

/-- Read what follows a percent sign, up to the conversion. -/
def Directive.read (s : Bytes) : Print (Option Directive × Bytes) := do
  let isFlag (c : Char) : Bool := "-+ #0'".toList.contains c
  let (width, r) ← readSize (s.dropWhile isFlag)
  let flags := s.takeWhile isFlag
  let flags := if width.any (· < 0) then '-' :: flags else flags
  let (precision, r) ←
    match r with
    | '.' :: r => do
      let (n, r) ← readSize r
      pure (some (n.getD 0), r)
    | r => pure (none, r)
  match r.dropWhile lengthLetters.contains with
  | [] => return (none, [])
  | c :: rest =>
    let precision := (precision.filter (0 ≤ ·)).map Int.toNat
    return (some ⟨flags, width.map Int.natAbs, precision, c⟩, rest)

/-- Follow a directive. -/
def Directive.print (d : Directive) : Print Unit := do
  match d.conversion with
  | 's' =>
    let s ← Print.argument
    Print.put (d.pad (match d.precision with | some n => s.take n | none => s))
  | 'c' =>
    let s ← Print.argument
    Print.put (d.pad [s.headD (byte 0)])
  | 'b' =>
    let u := unescape .argument (← Print.argument)
    Print.complainLacking u.lacking
    Print.put (d.pad (match d.precision with | some n => u.text.take n | none => u.text))
    if u.stopped then Print.stop
  | 'q' =>
    let s ← Print.argument
    Print.put (d.pad (readable s))
  | 'd' | 'i' => Print.put (d.signed (← Print.integerBelow (Nat.pow 2 63)))
  | 'u' | 'o' | 'x' | 'X' => Print.put (d.unsigned (← Print.integerBelow (Nat.pow 2 64)))
  | 'f' | 'F' | 'e' | 'E' | 'g' | 'G' =>
    Print.put (d.real (← Print.number readReal fun n => .finite false n 1))
  | 'n' =>
    let _ ← Print.argument
  | c =>
    Print.complain ('\x60' :: c :: "': invalid format character".toList)
    Print.stop

/-- Follow a format of at most `fuel` characters once. -/
def printOnce : (fuel : Nat) → Bytes → Print Unit
  | 0, _ => return
  | _, [] => return
  | fuel + 1, '%' :: '%' :: r => do
    Print.put ['%']
    printOnce fuel r
  | fuel + 1, '%' :: r => do
    match ← Directive.read r with
    | (none, _) =>
      Print.complain ('\x60' :: '%' :: (r ++ "': missing format character".toList))
      Print.stop
    | (some d, rest) =>
      d.print
      if !(← get).stopped then printOnce fuel rest
  | fuel + 1, '\\' :: r => do
    match readEscape .format r with
    | .text s rest =>
      Print.put s
      printOnce fuel rest
    | .stop => Print.stop
    | .lacksDigits c rest =>
      Print.complainLacking [c]
      Print.put ['\\', c]
      printOnce fuel rest
  | fuel + 1, c :: r => do
    Print.put [c]
    printOnce fuel r

/-- Follow a format until no argument is left, or one round takes none; at most `fuel` times. -/
def printAll (format : Bytes) : (fuel : Nat) → Print Unit
  | 0 => return
  | fuel + 1 => do
    let before := (← get).arguments.length
    printOnce format.length format
    let p ← get
    if !p.stopped && !p.arguments.isEmpty && p.arguments.length < before then printAll format fuel

/-- Output under a format, and what is wrong with it. -/
def formatted (format : Bytes) (arguments : List Bytes) : Bytes × List Bytes :=
  let (_, p) := (printAll format (arguments.length + 1)).run ⟨arguments, [], [], false⟩
  (p.output.reverse.flatten, p.complaints.reverse)

end Tutor.Shell
