import Tutor.Decimal.Double
import Tutor.Text.Whole

namespace Tutor.Decimal

/-!
# Shortest numerals

A finite double is written with the fewest digits that read back as the same double, and among
numerals of that length with the nearest one.

* `Interval` is the set of values that round to a double, as quotients over one denominator;
* `shortest` gives the digits and the place of the decimal point;
* `NumeralStyle` records the choices of an output format, and `numeral` follows it.
-/

/-- The values that round to a double: `low`, the value and `high`, all over `den`, with the ends
included or not. -/
structure Interval where
  low : Nat
  value : Nat
  high : Nat
  den : Nat
  closed : Bool

/-- The values that round to `mantissa * 2 ^ exponent`. Below a power of two the neighbour is half
as far away. -/
def Interval.of (mantissa : Nat) (exponent : Int) : Interval :=
  let narrow := mantissa = Nat.pow 2 52 ∧ -1074 < exponent
  let (scale, unit) := powerRatio 2 exponent
  { low := (4 * mantissa - if narrow then 1 else 2) * scale
    value := 4 * mantissa * scale
    high := (4 * mantissa + 2) * scale
    den := 4 * unit
    closed := mantissa % 2 = 0 }

/-- A quotient `num / den` rounds to the double. -/
def Interval.holds (i : Interval) (num den : Nat) : Bool :=
  let l := i.low * den
  let x := num * i.den
  let h := i.high * den
  if i.closed then l ≤ x && x ≤ h else l < x && x < h

/-- The largest `p` with `10 ^ p ≤ num / den`, from an estimate that is at most two too large. -/
def magnitude (num den : Nat) : Int :=
  let bits : Int := (Nat.log2 num : Int) - (Nat.log2 den : Int)
  let guess : Int := Int.fdiv (bits * 30103) 100000 + 1
  let below (p : Int) : Bool :=
    let (up, down) := powerRatio 10 p
    up * den ≤ num * down
  if below guess then guess else if below (guess - 1) then guess - 1 else guess - 2

/-- The neighbour of the value on the grid of multiples of `10 ^ place` that rounds to the double
and lies nearer, if one does. -/
def gridPoint (i : Interval) (place : Int) : Option Nat :=
  let (up, down) := powerRatio 10 place
  -- the value is `num / den` grid steps
  let num := i.value * down
  let den := i.den * up
  let below := num / den
  let hit (n : Nat) : Bool := i.holds (n * up) down
  let nearest := roundQuotient num den
  let other := if nearest = below then below + 1 else below
  if hit nearest then some nearest else if hit other then some other else none

/-- Try grids of ever more digits. -/
def shortestFrom (i : Interval) (top : Int) : (fuel : Nat) → (count : Nat) → Nat × Int
  | 0, _ => (0, 0)
  | fuel + 1, count =>
    let place := top - count + 1
    match gridPoint i place with
    | some n => (n, place)
    | none => shortestFrom i top fuel (count + 1)

/-- Digits without trailing zeros. -/
def dropZeros : (fuel : Nat) → Nat × Int → Nat × Int
  | 0, x => x
  | fuel + 1, (n, p) => if n ≠ 0 ∧ n % 10 = 0 then dropZeros fuel (n / 10, p + 1) else (n, p)

/-- The shortest numeral `digits * 10 ^ place` of a positive finite double. -/
def shortest (mantissa : Nat) (exponent : Int) : Nat × Int :=
  let i := Interval.of mantissa exponent
  dropZeros 20 (shortestFrom i (magnitude i.value i.den) 18 1)

/-- How an output format writes doubles. -/
structure NumeralStyle where
  /-- Positional notation is used while the point lies in this range, counted in digits from the
  first one. -/
  leastPoint : Int
  greatestPoint : Int
  nan : String
  infinity : String

/-- Zeros. -/
def zeros (n : Nat) : List Char :=
  List.replicate n '0'

/-- Exponents have a sign and at least two digits. -/
def exponentChars (e : Int) : List Char :=
  let ds := Text.decimalDigits e.natAbs
  (if e < 0 then '-' else '+') :: (if ds.length < 2 then '0' :: ds else ds)

/-- A numeral from its digits and the place of the point, counted from the first digit. -/
def layout (style : NumeralStyle) (ds : List Char) (point : Int) : List Char :=
  if style.leastPoint ≤ point ∧ point ≤ style.greatestPoint then
    if point ≤ 0 then '0' :: '.' :: (zeros (-point).toNat ++ ds)
    else if (ds.length : Int) ≤ point then ds ++ zeros (point.toNat - ds.length) ++ ['.', '0']
    else ds.take point.toNat ++ '.' :: ds.drop point.toNat
  else
    match ds with
    | [] => []
    | [d] => d :: 'e' :: exponentChars (point - 1)
    | d :: more => d :: '.' :: (more ++ 'e' :: exponentChars (point - 1))

/-- The text of a double. -/
def numeral (style : NumeralStyle) (x : Double) : List Char :=
  match x with
  | .nan => style.nan.toList
  | .infinite negative => (if negative then ['-'] else []) ++ style.infinity.toList
  | .finite negative m e =>
    (if negative then ['-'] else []) ++
      if m = 0 then ['0', '.', '0']
      else
        let (n, p) := shortest m e
        let ds := Text.decimalDigits n
        layout style ds (p + ds.length)

end Tutor.Decimal
