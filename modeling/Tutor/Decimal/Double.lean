namespace Tutor.Decimal

/-!
# Doubles

Binary floating point numbers of 53 significant bits and exponents from -1074, as exact values.

* `Double` is the type: zero and the finite numbers, the infinities, and one value that is no
  number;
* `roundQuotient` rounds a quotient to a whole number, a half to the even neighbour;
* `powerRatio` is a power with a whole exponent of either sign, as a quotient;
* `ofRatio` is the double nearest to a quotient;
* `ofDecimal` is the double nearest to a decimal numeral.
-/

/-- A double. A finite one has the value `mantissa * 2 ^ exponent`, up to the sign. -/
inductive Double
  | finite (negative : Bool) (mantissa : Nat) (exponent : Int)
  | infinite (negative : Bool)
  | nan
  deriving DecidableEq, Repr

/-- Zero with a sign. -/
def Double.zero (negative : Bool) : Double :=
  .finite negative 0 0

/-- Zero of either sign. -/
def Double.isZero : Double → Bool
  | .finite _ m _ => m == 0
  | _ => false

/-- The whole number nearest to a quotient, a half to the even neighbour. -/
def roundQuotient (num den : Nat) : Nat :=
  let q := num / den
  let twice := 2 * (num % den)
  if twice < den then q
  else if den < twice then q + 1
  else q + q % 2

/-- The power `base ^ exponent`, as a quotient. -/
def powerRatio (base : Nat) (exponent : Int) : Nat × Nat :=
  if 0 ≤ exponent then (Nat.pow base exponent.toNat, 1) else (1, Nat.pow base (-exponent).toNat)

/-- A quotient times a power of two. -/
def scaleRatio (num den : Nat) (shift : Int) : Nat × Nat :=
  let (up, down) := powerRatio 2 shift
  (num * up, den * down)

/-- The double nearest to a positive quotient. -/
def ofRatio (negative : Bool) (num den : Nat) : Double :=
  let guess : Int := (Nat.log2 num : Int) - (Nat.log2 den : Int) - 52
  let guess : Int :=
    let (n, d) := scaleRatio num den (-guess)
    if n < Nat.pow 2 52 * d then guess - 1 else guess
  let e : Int := max guess (-1074)
  let (n, d) := scaleRatio num den (-e)
  let m := roundQuotient n d
  let (m, e) := if m = Nat.pow 2 53 then (Nat.pow 2 52, e + 1) else (m, e)
  if 971 < e then .infinite negative
  else if m = 0 then .zero negative
  else .finite negative m e

/-- The double nearest to `digits * 10 ^ exponent`. Numerals far outside the range of doubles are
settled by their size alone. -/
def ofDecimal (negative : Bool) (digits : Nat) (exponent : Int) : Double :=
  let size : Int := (Nat.log2 digits * 3 / 10 : Nat)
  let slack : Int := (Nat.log2 digits / 100 + 2 : Nat)
  if digits = 0 then .zero negative
  else if 400 < exponent + size then .infinite negative
  else if exponent + size + slack < -400 then .zero negative
  else
    let (up, down) := powerRatio 10 exponent
    ofRatio negative (digits * up) down

end Tutor.Decimal
