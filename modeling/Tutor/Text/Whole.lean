import Tutor.Text.Blank
import Tutor.Text.Digits
import Tutor.Text.Quoted

namespace Tutor.Text

/-!
# Whole numbers

Reading a whole number from a text: blanks around it, a sign, decimal digits of any script, single
underscores between digits. Numbers of more than `digitLimit` digits are refused.

* `readWhole` reads a number or says why there is none;
* `decimalDigits` writes a natural number.
-/

/-- Longest number that is converted, in digits. -/
def digitLimit : Nat := 4300

/-- Why a text is no whole number. -/
inductive WholeFlaw
  | notANumber (text : String)
  | tooLong (digits : Nat)
  deriving DecidableEq, Repr

/-- The wording of a flaw. -/
def WholeFlaw.message : WholeFlaw → String
  | .notANumber t =>
    "invalid literal for int() with base 10: " ++ String.ofList ((quotedChars t.toList).take 200)
  | .tooLong n =>
    s!"Exceeds the limit ({digitLimit} digits) for integer string conversion: value has {n} " ++
      "digits; use sys.set_int_max_str_digits() to increase the limit"

/-- A blank that may surround a number. -/
def surroundsNumber (c : Char) : Bool :=
  if c.toNat < 128 then isAsciiBlank c.toNat else isBlank c.toNat

/-- The digits a number starts with, single underscores between them dropped, and what follows. -/
def takeDigits : List Char → List Nat × List Char
  | [] => ([], [])
  | c :: r =>
    match decimalValue c.toNat with
    | some v =>
      let (vs, rest) := takeDigits r
      (v :: vs, rest)
    | none =>
      match c, r with
      | '_', d :: r' =>
        match decimalValue d.toNat with
        | some v =>
          let (vs, rest) := takeDigits r'
          (v :: vs, rest)
        | none => ([], c :: d :: r')
      | _, _ => ([], c :: r)

/-- The number that digits spell. -/
def numberOf (digits : List Nat) : Nat :=
  digits.foldl (fun n d => 10 * n + d) 0

/-- A whole number of decimal digits, with a sign and blanks around it. -/
def readWhole (text : List Char) : Except WholeFlaw Int :=
  let s := text.dropWhile surroundsNumber
  let (negative, s) : Bool × List Char :=
    match s with
    | '-' :: r => (true, r)
    | '+' :: r => (false, r)
    | r => (false, r)
  let startsWell := (s.head?.bind fun c => decimalValue c.toNat).isSome
  let (digits, rest) := if startsWell then takeDigits s else ([], s)
  if digitLimit < digits.length then .error (.tooLong digits.length)
  else if startsWell && rest.all surroundsNumber then
    .ok (if negative then -(numberOf digits : Int) else numberOf digits)
  else .error (.notANumber (String.ofList text))

/-- The decimal digits of a natural number. -/
def decimalDigits (n : Nat) : List Char :=
  Nat.toDigits 10 n

/-- A whole number in decimal digits, with a sign if it is negative. -/
def wholeChars (n : Int) : List Char :=
  match n with
  | .ofNat m => decimalDigits m
  | .negSucc m => '-' :: decimalDigits (m + 1)

end Tutor.Text
