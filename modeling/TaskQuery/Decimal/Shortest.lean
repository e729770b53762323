/-
# The shortest decimal of a binary number

A number `m · 2 ^ q` in double precision stands for every real that rounds to it.
Of the decimals in that interval the shortest is written; among those of one
length the nearest, and of two equally near the even one. The search tries grids
of one to seventeen digits in exact arithmetic, and on each grid only the two
neighbours of the number.
-/

namespace TaskQuery

/-- The decimal `± digits · 10 ^ exponent`. -/
structure Decimal where
  negative : Bool
  digits : Nat
  exponent : Int
  deriving DecidableEq, Repr

namespace Decimal

/-- The fraction `numerator / denominator`. -/
structure Fraction where
  numerator : Nat
  denominator : Nat

/-- The fraction `value · 2 ^ power`. -/
def Fraction.ofBinary (value : Nat) (power : Int) : Fraction :=
  if 0 ≤ power then ⟨value * Nat.pow 2 power.toNat, 1⟩ else ⟨value, Nat.pow 2 (-power).toNat⟩

/-- The fraction `value · 10 ^ power`. -/
def Fraction.ofDecimal (value : Nat) (power : Int) : Fraction :=
  if 0 ≤ power then ⟨value * Nat.pow 10 power.toNat, 1⟩ else ⟨value, Nat.pow 10 (-power).toNat⟩

/-- Whether one fraction is smaller than another. -/
def Fraction.lt (a b : Fraction) : Bool :=
  a.numerator * b.denominator < b.numerator * a.denominator

/-- The number of decimal digits of a natural number. -/
def digitCount (n : Nat) : Nat :=
  (Nat.toDigits 10 n).length

/-- The power of ten of a fraction's leading digit. -/
def leadingExponent (x : Fraction) : Int :=
  if x.denominator ≤ x.numerator then
    (digitCount (x.numerator / x.denominator) : Int) - 1
  else -(digitCount ((x.denominator - 1) / x.numerator) : Int)

/-- The reals that round to a number, with its two ends when the number's
significand is even. -/
structure Rounding where
  centre : Fraction
  low : Fraction
  high : Fraction
  closed : Bool

/-- The leading bit of a significand of full length. -/
def leadingBit : Nat := Nat.pow 2 52

/-- The interval of the number `significand · 2 ^ power`. Below a power of two the
neighbour is only half as far away as above it, unless the number is among the
smallest. -/
def Rounding.ofBinary (significand : Nat) (power : Int) : Rounding where
  centre := .ofBinary significand power
  low :=
    if significand = leadingBit ∧ power ≠ -1074 then
      .ofBinary (4 * significand - 1) (power - 2)
    else .ofBinary (2 * significand - 1) (power - 1)
  high := .ofBinary (2 * significand + 1) (power - 1)
  closed := significand % 2 == 0

/-- Whether a fraction lies in the interval. -/
def Rounding.contains (r : Rounding) (x : Fraction) : Bool :=
  if r.closed then !x.lt r.low && !r.high.lt x else r.low.lt x && x.lt r.high

/-- The nearest decimal with this power of ten that lies in the interval. -/
def Rounding.onGrid? (r : Rounding) (power : Int) : Option Nat :=
  let unit := Fraction.ofDecimal 1 power
  let scaled := r.centre.numerator * unit.denominator
  let step := r.centre.denominator * unit.numerator
  let below := scaled / step
  let excess := scaled % step
  let above := below + 1
  let belowFits := 0 < below && r.contains (.ofDecimal below power)
  let aboveFits := r.contains (.ofDecimal above power)
  match belowFits, aboveFits with
  | true, true =>
      if 2 * excess < step then some below
      else if step < 2 * excess then some above
      else if below % 2 = 0 then some below
      else some above
  | true, false => some below
  | false, true => some above
  | false, false => none

/-- The first of the powers of ten, from large to small, on which the interval
holds a decimal. -/
def Rounding.shortestFrom (r : Rounding) (top : Int) : List Nat → Nat × Int
  | [] => (0, 0)
  | places :: rest =>
      let power := top - places
      match r.onGrid? power with
      | some digits => (digits, power)
      | none => r.shortestFrom top rest

/-- Moves trailing zeros of the digits into the exponent. -/
def trimZeros : (fuel : Nat) → Nat → Int → Nat × Int
  | 0, digits, exponent => (digits, exponent)
  | fuel + 1, digits, exponent =>
      if digits ≠ 0 ∧ digits % 10 = 0 then trimZeros fuel (digits / 10) (exponent + 1)
      else (digits, exponent)

/-- The shortest decimal of `significand · 2 ^ power`. -/
def shortest (negative : Bool) (significand : Nat) (power : Int) : Decimal :=
  if significand = 0 then ⟨negative, 0, 0⟩
  else
    let r := Rounding.ofBinary significand power
    let (digits, exponent) := r.shortestFrom (leadingExponent r.centre) (List.range 17)
    let (digits, exponent) := trimZeros 17 digits exponent
    ⟨negative, digits, exponent⟩

/-- The shortest decimal of a finite number in double precision. -/
def ofFloat (x : Float) : Decimal :=
  let bits : Nat := x.toBits.toNat
  let fraction : Nat := bits % leadingBit
  let biased : Nat := bits / leadingBit % 2048
  let negative := bits / Nat.pow 2 63 == 1
  if biased = 0 then shortest negative fraction (-1074)
  else shortest negative (leadingBit + fraction) ((biased : Int) - 1075)

/-- The power of ten of the leading digit. -/
def leading (d : Decimal) : Int :=
  d.exponent + digitCount d.digits - 1

/-- A decimal as a document writes it: in positions while the leading digit lies
between five places behind the point and sixteen before it, with a point in any
case, and with a signed exponent otherwise. -/
def text (d : Decimal) : String :=
  let sign := if d.negative then "-" else ""
  let digits := Nat.toDigits 10 d.digits
  let positions : List Char :=
    if d.digits = 0 then ['0', '.', '0']
    else if d.leading < -5 ∨ 15 < d.leading then
      let mantissa :=
        match digits with
        | first :: second :: rest => first :: '.' :: second :: rest
        | _ => digits
      let exponentSign := if d.leading < 0 then '-' else '+'
      mantissa ++ 'e' :: exponentSign :: Nat.toDigits 10 d.leading.natAbs
    else if 0 ≤ d.exponent then
      digits ++ List.replicate d.exponent.toNat '0' ++ ['.', '0']
    else if 0 ≤ d.leading then
      let whole := (d.leading + 1).toNat
      digits.take whole ++ '.' :: digits.drop whole
    else
      ['0', '.'] ++ List.replicate (-1 - d.leading).toNat '0' ++ digits
  sign ++ String.ofList positions

end Decimal

end TaskQuery
