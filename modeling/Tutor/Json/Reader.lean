import Tutor.Json.Basic
import Tutor.Text.Hex
import Tutor.Text.Whole

namespace Tutor.Json

/-!
# Reading JSON

A reader for JSON documents with the constants `NaN`, `Infinity` and `-Infinity`. It works on the
characters that are left; a flaw carries what was left where it shows, and so knows its place.

* `value` reads one value, `stringBody` a string after its opening quote, `number` a number;
* `unitChar` is the character of an escape; where an escape stands for none, being half of a pair of
  surrogates, the character that is read is U+FFFD, so that documents that differ in such halves
  read the same;
* `read` reads a document and turns the place of a flaw into a line, a column and an offset.
-/

/-- What is wrong at some place of a document. -/
inductive Flaw
  | value
  | key
  | colon
  | comma
  | unterminated
  | control
  | escape
  | unicodeEscape
  | extra
  | byteOrderMark
  deriving DecidableEq, Repr

/-- The wording of a flaw. -/
def Flaw.text : Flaw → String
  | .value => "Expecting value"
  | .key => "Expecting property name enclosed in double quotes"
  | .colon => "Expecting ':' delimiter"
  | .comma => "Expecting ',' delimiter"
  | .unterminated => "Unterminated string starting at"
  | .control => "Invalid control character at"
  | .escape => "Invalid \\escape"
  | .unicodeEscape => "Invalid \\uXXXX escape"
  | .extra => "Extra data"
  | .byteOrderMark => "Unexpected UTF-8 BOM (decode using utf-8-sig)"

/-- Why reading stopped: a flaw with the characters left at its place, or a number too long. -/
inductive Stop
  | flaw (why : Flaw) (left : List Char)
  | tooLong (digits : Nat)

/-- A space, tab, carriage return or newline. -/
def isSpace (c : Char) : Bool :=
  c = ' ' || c = '\t' || c = '\n' || c = '\r'

/-- What follows the spaces. -/
def skipSpaces (s : List Char) : List Char :=
  s.dropWhile isSpace

/-! ### Strings -/

/-- The value of four hexadecimal digits that are not the end of the document. -/
def fourDigits (s : List Char) : Option (Nat × List Char) :=
  match s with
  | a :: b :: c :: d :: e :: r => (Text.hexNumber? [a, b, c, d]).map fun n => (n, e :: r)
  | _ => none

/-- The character of a short escape. -/
def shortEscape (c : Char) : Option Char :=
  match c with
  | '"' => some '"'
  | '\\' => some '\\'
  | '/' => some '/'
  | 'b' => some (Char.ofNat 8)
  | 'f' => some (Char.ofNat 12)
  | 'n' => some '\n'
  | 'r' => some '\r'
  | 't' => some '\t'
  | _ => none

/-- The character of a code unit. A surrogate without its other half is no character, and becomes
U+FFFD. -/
def unitChar (n : Nat) : Char :=
  if 0xD800 ≤ n ∧ n < 0xE000 then '\uFFFD' else Char.ofNat n

/-- A low surrogate written as an escape after a high one. -/
def lowSurrogate (s : List Char) : Except Stop (Option (Nat × List Char)) :=
  match s with
  | '\\' :: 'u' :: r =>
    if r.length < 5 then .ok none
    else
      match fourDigits r with
      | some (n, rest) => .ok (if 0xDC00 ≤ n ∧ n < 0xE000 then some (n, rest) else none)
      | none => .error (.flaw .unicodeEscape ('u' :: r))
  | _ => .ok none

/-- An escape after its backslash `back :: s`: the character and what follows. -/
def escape (back : Char) (start s : List Char) : Except Stop (Char × List Char) :=
  match s with
  | [] => .error (.flaw .unterminated start)
  | 'u' :: r =>
    match fourDigits r with
    | none => .error (.flaw .unicodeEscape ('u' :: r))
    | some (n, rest) =>
      -- a high surrogate may be the first half of a pair
      if 0xD800 ≤ n ∧ n < 0xDC00 then
        match lowSurrogate rest with
        | .error e => .error e
        | .ok (some (m, rest)) =>
          .ok (Char.ofNat (65536 + (n - 0xD800) * 1024 + (m - 0xDC00)), rest)
        | .ok none => .ok (unitChar n, rest)
      else .ok (unitChar n, rest)
  | c :: r =>
    match shortEscape c with
    | some d => .ok (d, r)
    | none => .error (.flaw .escape (back :: c :: r))

/-- A string after its opening quote; `start` is the document from that quote on. The characters
read so far are in reverse. -/
def stringBody (start : List Char) : (fuel : Nat) → (done : List Char) → List Char →
    Except Stop (String × List Char)
  | 0, _, _ => .error (.flaw .unterminated start)
  | fuel + 1, done, s =>
    match s with
    | [] => .error (.flaw .unterminated start)
    | c :: r =>
      if c = '"' then .ok (String.ofList done.reverse, r)
      else if c = '\\' then
        match escape c start r with
        | .error e => .error e
        | .ok (d, rest) => stringBody start fuel (d :: done) rest
      else if c.toNat < 32 then .error (.flaw .control (c :: r))
      else stringBody start fuel (c :: done) r

/-- A string from its opening quote `q` on. -/
def string (q : Char) (s : List Char) : Except Stop (String × List Char) :=
  stringBody (q :: s) (s.length + 1) [] s

/-! ### Numbers -/

/-- A digit from 0 to 9. -/
def isDigit (c : Char) : Bool :=
  '0' ≤ c && c ≤ '9'

/-- The digits of a whole part: a zero alone, or digits that start with another one. -/
def wholePart (s : List Char) : Option (List Char × List Char) :=
  match s with
  | [] => none
  | c :: r =>
    if c = '0' then some (['0'], r)
    else if isDigit c then some (c :: r.takeWhile isDigit, r.dropWhile isDigit)
    else none

/-- The digits after a point, if there is a point with a digit after it. -/
def fraction (s : List Char) : List Char × List Char :=
  match s with
  | '.' :: c :: r =>
    if isDigit c then (c :: r.takeWhile isDigit, r.dropWhile isDigit) else ([], s)
  | _ => ([], s)

/-- The exponent after an `e`, if it has a digit: its sign, its digits, and what follows. -/
def exponent (s : List Char) : Option (Bool × List Char × List Char) :=
  let signed : Option (Bool × List Char) :=
    match s with
    | c :: r =>
      if c = 'e' ∨ c = 'E' then
        match r with
        | '-' :: r' => some (true, r')
        | '+' :: r' => some (false, r')
        | _ => some (false, r)
      else none
    | [] => none
  match signed with
  | some (negative, r) =>
    if (r.takeWhile isDigit).isEmpty then none
    else some (negative, r.takeWhile isDigit, r.dropWhile isDigit)
  | none => none

/-- The number that decimal digits spell. -/
def digitsValue (s : List Char) : Nat :=
  s.foldl (fun n c => 10 * n + (c.toNat - 48)) 0

/-- A number: whole unless it has a fraction or an exponent. -/
def number (s : List Char) : Except Stop (Json × List Char) :=
  let (negative, r) : Bool × List Char :=
    match s with
    | '-' :: r => (true, r)
    | r => (false, r)
  match wholePart r with
  | none => .error (.flaw .value s)
  | some (whole, r1) =>
    let (frac, r2) := fraction r1
    match frac, exponent r2 with
    | [], none =>
      -- only whole numbers are limited in length
      if Text.digitLimit < whole.length then .error (.tooLong whole.length)
      else .ok (.int (if negative then -(digitsValue whole : Int) else digitsValue whole), r2)
    | _, none =>
      .ok (.float (Decimal.ofDecimal negative (digitsValue (whole ++ frac)) (-frac.length)), r2)
    | _, some (down, ex, r3) =>
      let e : Int := if down then -(digitsValue ex : Int) else digitsValue ex
      .ok (.float (Decimal.ofDecimal negative (digitsValue (whole ++ frac)) (e - frac.length)), r3)

/-! ### Values -/

/-- The constants and their values. -/
def constants : List (List Char × Json) :=
  [("null".toList, .null), ("true".toList, .bool true), ("false".toList, .bool false),
   ("NaN".toList, .float .nan), ("Infinity".toList, .float (.infinite false)),
   ("-Infinity".toList, .float (.infinite true))]

/-- A constant or a number. -/
def atom (s : List Char) : Except Stop (Json × List Char) :=
  match constants.find? fun k => k.1.isPrefixOf s with
  | some (word, j) => .ok (j, s.drop word.length)
  | none => number s

mutual

/-- One value. -/
def value : (fuel : Nat) → List Char → Except Stop (Json × List Char)
  | 0, s => .error (.flaw .value s)
  | fuel + 1, s =>
    match s with
    | [] => .error (.flaw .value [])
    | c :: r =>
      if c = '"' then (string c r).map fun x => (.str x.1, x.2)
      else if c = '\x7b' then
        match skipSpaces r with
        | '\x7d' :: rest => .ok (.obj [], rest)
        | rest => members fuel [] rest
      else if c = '[' then
        match skipSpaces r with
        | ']' :: rest => .ok (.arr [], rest)
        | rest => items fuel [] rest
      else atom s

/-- The items of an array up to its bracket, after those in `done`, newest first. -/
def items : (fuel : Nat) → (done : List Json) → List Char → Except Stop (Json × List Char)
  | 0, _, s => .error (.flaw .value s)
  | fuel + 1, done, s =>
    match value fuel s with
    | .error e => .error e
    | .ok (j, rest) =>
      match skipSpaces rest with
      | ']' :: rest => .ok (.arr (j :: done).reverse, rest)
      | ',' :: rest => items fuel (j :: done) (skipSpaces rest)
      | rest => .error (.flaw .comma rest)

/-- The members of an object up to its brace, after those in `done`. -/
def members : (fuel : Nat) → (done : List (String × Json)) → List Char →
    Except Stop (Json × List Char)
  | 0, _, s => .error (.flaw .value s)
  | fuel + 1, done, s =>
    match s with
    | '"' :: r =>
      match string '"' r with
      | .error e => .error e
      | .ok (key, rest) =>
        match skipSpaces rest with
        | ':' :: rest =>
          match value fuel (skipSpaces rest) with
          | .error e => .error e
          | .ok (j, rest) =>
            match skipSpaces rest with
            | '\x7d' :: rest => .ok (.obj (Table.put done key j), rest)
            | ',' :: rest => members fuel (Table.put done key j) (skipSpaces rest)
            | rest => .error (.flaw .comma rest)
        | rest => .error (.flaw .colon rest)
    | s => .error (.flaw .key s)

end

/-! ### Documents -/

/-- A flaw of a document at a line, a column and an offset. -/
structure Fault where
  why : Flaw
  line : Nat
  column : Nat
  offset : Nat
  deriving DecidableEq, Repr

/-- The wording of a fault. -/
def Fault.message (f : Fault) : String :=
  s!"{f.why.text}: line {f.line} column {f.column} (char {f.offset})"

/-- The place of the flaw where `left` characters were left to read. -/
def Fault.at (why : Flaw) (document : List Char) (left : Nat) : Fault :=
  let offset := document.length - left
  let before := document.take offset
  { why := why
    line := before.count '\n' + 1
    column := (before.reverse.takeWhile (· != '\n')).length + 1
    offset := offset }

/-- Why a document cannot be read. -/
inductive ReadError
  | fault (f : Fault)
  | tooLong (digits : Nat)
  deriving DecidableEq, Repr

/-- One value with nothing but spaces around it. -/
def document (s : List Char) : Except Stop Json :=
  match s with
  | '\uFEFF' :: _ => .error (.flaw .byteOrderMark s)
  | _ =>
    -- each value takes a character at least, and so does each item or member after it
    match value (2 * s.length + 1) (skipSpaces s) with
    | .error e => .error e
    | .ok (j, rest) =>
      match skipSpaces rest with
      | [] => .ok j
      | rest => .error (.flaw .extra rest)

/-- Read a document. -/
def read (text : String) : Except ReadError Json :=
  let s := text.toList
  match document s with
  | .ok j => .ok j
  | .error (.flaw why left) => .error (.fault (.at why s left.length))
  | .error (.tooLong n) => .error (.tooLong n)

end Tutor.Json
