import Tutor.Decimal.Shortest
import Tutor.Shell.Escape

namespace Tutor.Shell

/-!
# Numbers in shell code

* `readInteger` reads a whole number in C notation off the start of a text, `readReal` a decimal
  numeral;
* `Real.fixed`, `Real.scientific` and `Real.general` write a real number with a given precision.

Real numbers have 64 significant bits.
-/

/-! ### Whole numbers -/

/-- A number read off the start of a text, and the rest of the text. -/
structure Parsed (α : Type) where
  value : α
  rest : Bytes

/-- A blank. -/
def isSpace (c : Char) : Bool :=
  c == ' ' || ('\t' ≤ c && c ≤ '\r')

/-- The sign that a text may start with; `true` for minus. -/
def takeSign : Bytes → Bool × Bytes
  | '-' :: r => (true, r)
  | '+' :: r => (false, r)
  | s => (false, s)

/-- Read digits: hexadecimal after `0x`, octal after another zero, else decimal. -/
def readCDigits (s : Bytes) : Nat × Bytes :=
  match s with
  | '0' :: x :: r =>
    if (x == 'x' || x == 'X') && startsWithDigit 16 r then readDigits 16 r.length 0 r
    else readDigits 8 s.length 0 s
  | _ => readDigits 10 s.length 0 s

/-- Read a whole number with a sign. A text that holds none is left as it is. -/
def readInteger (s : Bytes) : Parsed Int :=
  let (negative, digits) := takeSign (s.dropWhile isSpace)
  if startsWithDigit 10 digits then
    let (n, rest) := readCDigits digits
    ⟨if negative then -(n : Int) else n, rest⟩
  else ⟨0, s⟩

/-- A text is a decimal whole number with a sign, between blanks. -/
def wholeNumber? (s : Bytes) : Option Int :=
  let (negative, digits) := takeSign (s.dropWhile isSpace)
  let (n, rest) := readDigits 10 digits.length 0 digits
  let bound := Nat.pow 2 63 + if negative then 1 else 0
  if startsWithDigit 10 digits && rest.all isSpace && n < bound then
    some (if negative then -(n : Int) else n)
  else none

/-! ### Real numbers -/

/-- A real number: a sign and a quotient, or none. -/
inductive Real
  | finite (negative : Bool) (num den : Nat)
  | infinite (negative : Bool)
  | nan (negative : Bool)
  deriving DecidableEq, Repr

/-- A quotient rounded to 64 significant bits. -/
def toBits64 (num den : Nat) : Nat × Nat :=
  if num = 0 then (0, 1)
  else
    let guess : Int := (Nat.log2 num : Int) - (Nat.log2 den : Int) - 63
    let (n, d) := Decimal.scaleRatio num den (-guess)
    let e := if n < Nat.pow 2 63 * d then guess - 1 else guess
    let (n, d) := Decimal.scaleRatio num den (-e)
    Decimal.scaleRatio (Decimal.roundQuotient n d) 1 e

/-- Read an exponent: `e`, a sign and digits. Without digits there is none. -/
def readExponent : Bytes → Int × Bytes
  | c :: r =>
    let (negative, digits) := takeSign r
    if (c == 'e' || c == 'E') && startsWithDigit 10 digits then
      let (n, rest) := readDigits 10 digits.length 0 digits
      (if negative then -(n : Int) else n, rest)
    else (0, c :: r)
  | [] => (0, [])

/-- The exponent beyond which a numeral counts as infinite or as zero. -/
def largestExponent : Nat := 4930

/-- The real number of a decimal numeral. -/
def Real.ofDecimal (negative : Bool) (digits : Nat) (exponent : Int) : Real :=
  if digits = 0 || exponent < -(2 * largestExponent : Int) then .finite negative 0 1
  else if (largestExponent : Int) < exponent then .infinite negative
  else
    let (up, down) := Decimal.powerRatio 10 exponent
    let (num, den) := toBits64 (digits * up) down
    .finite negative num den

/-- Read a real number with a sign. A text that holds none is left as it is. -/
def readReal (s : Bytes) : Parsed Real :=
  let (negative, body) := takeSign (s.dropWhile isSpace)
  let (whole, rest) := readDigits 10 body.length 0 body
  let (digits, places, rest) :=
    match rest with
    | '.' :: r =>
      let (n, after) := readDigits 10 r.length whole r
      (n, r.length - after.length, after)
    | _ => (whole, 0, rest)
  let lowered := body.map Char.toLower
  if startsWithDigit 10 body || 0 < places then
    let (e, rest) := readExponent rest
    ⟨.ofDecimal negative digits (e - places), rest⟩
  else if "inf".toList.isPrefixOf lowered then
    ⟨.infinite negative, body.drop (if "infinity".toList.isPrefixOf lowered then 8 else 3)⟩
  else if "nan".toList.isPrefixOf lowered then ⟨.nan negative, body.drop 3⟩
  else ⟨.finite false 0 1, s⟩

/-- Digits with a point before the last `places` of them. A point without digits after it is written
only if it has to be. -/
def withPoint (places : Nat) (pointed : Bool) (digits : Bytes) : Bytes :=
  let digits := Decimal.zeros (places + 1 - digits.length) ++ digits
  let whole := digits.take (digits.length - places)
  if places = 0 then if pointed then whole ++ ['.'] else whole
  else whole ++ '.' :: digits.drop (digits.length - places)

/-- A quotient with a number of decimal places. -/
def Real.fixed (places : Nat) (pointed : Bool) (num den : Nat) : Bytes :=
  let n := Decimal.roundQuotient (num * Nat.pow 10 places) den
  withPoint places pointed (Text.decimalDigits n)

/-- The digits of a quotient, one before the point and `places` after it, and its exponent. -/
def Real.scaled (places : Nat) (num den : Nat) : Nat × Int :=
  if num = 0 then (0, 0)
  else
    let top := Decimal.magnitude num den
    let shift : Int := places - top
    let (up, down) := Decimal.powerRatio 10 shift
    let n := Decimal.roundQuotient (num * up) (den * down)
    if n = Nat.pow 10 (places + 1) then (n / 10, top + 1) else (n, top)

/-- A quotient in scientific notation. -/
def Real.scientific (places : Nat) (pointed : Bool) (num den : Nat) : Bytes :=
  let (n, e) := Real.scaled places num den
  withPoint places pointed (Text.decimalDigits n) ++ 'e' :: Decimal.exponentChars e

/-- A numeral without the zeros at the end of its fraction. -/
def dropFractionZeros (s : Bytes) : Bytes :=
  let (mantissa, exponent) := (s.takeWhile (· != 'e'), s.dropWhile (· != 'e'))
  let cut := (mantissa.reverse.dropWhile (· == '0')).reverse
  let cut := if cut.getLast? == some '.' then cut.dropLast else cut
  (if mantissa.contains '.' then cut else mantissa) ++ exponent

/-- A quotient with a number of significant digits, in scientific notation if it is very small or
has more digits before the point. -/
def Real.general (precision : Nat) (full : Bool) (num den : Nat) : Bytes :=
  let digits := max precision 1
  let (_, e) := Real.scaled (digits - 1) num den
  let s :=
    if -4 ≤ e && e < digits then Real.fixed ((digits : Int) - 1 - e).toNat full num den
    else Real.scientific (digits - 1) full num den
  if full then s else dropFractionZeros s

end Tutor.Shell
