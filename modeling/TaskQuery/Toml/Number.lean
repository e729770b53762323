/-
# Numbers and dates of TOML

An integer has 64 bits and is written in one of four bases, with underscores between
its digits if wanted. A floating-point number has to be in the range of double
precision on its positive side. A date has to exist, and a time may follow it. Dates and
times are given back in one form: a `T` between date and time, nanoseconds as the
smallest part, no zeros at the end of a fraction, and `Z` or a signed distance at the
end.
-/

import TaskQuery.Calendar.Date
import TaskQuery.Toml.Lexeme

namespace TaskQuery.Toml

/-! ## Dates -/

/-- A number with exactly so many digits, if there is one. -/
def digits? (count : Nat) : Reader (Option Nat) :=
  Scan.attempt do
    let digits ← Scan.takeWhileUpTo count Char.isDigit
    return if digits.length = count then some (Text.natOfDigits digits) else none

/-- A number of two digits within bounds. -/
def twoDigits (least greatest : Nat) : Reader Nat := do
  match ← digits? 2 with
  | some value =>
      if least ≤ value ∧ value ≤ greatest then return value else Scan.fail .badDate
  | none => unexpectedNext

/-- A number of two digits. -/
def twoPlaces (value : Nat) : String :=
  Text.zeroPadded 2 value

/-- Takes a date, if one stands next. -/
def date? : Reader (Option String) :=
  Scan.attempt do
    match ← digits? 4 with
    | none => return none
    | some year =>
        if ← Scan.accept ['-'] then
          let month ← twoDigits 1 12
          expect ['-']
          let day ← twoDigits 1 (monthLength year month)
          return some (Text.zeroPadded 4 year ++ "-" ++ twoPlaces month ++ "-" ++ twoPlaces day)
        else return none

/-- The digits of a fraction up to nanoseconds, without zeros at its end. -/
def significantPlaces (digits : List Char) : List Char :=
  ((digits.take 9).reverse.dropWhile (· == '0')).reverse

/-- Takes the fraction of a second, if one stands next. -/
def fraction : Reader String := do
  if ← Scan.accept ['.'] then
    let digits ← Scan.takeWhile Char.isDigit
    if digits.isEmpty then unexpectedNext
    else
      let places := significantPlaces digits
      return if places.isEmpty then "" else "." ++ String.ofList places
  else return ""

/-- Takes a time of day, if one stands next. -/
def time? : Reader (Option String) :=
  Scan.attempt do
    match ← digits? 2 with
    | none => return none
    | some hour =>
        if hour ≤ 23 ∧ (← Scan.accept [':']) then
          let minute ← twoDigits 0 59
          expect [':']
          let second ← twoDigits 0 60
          let clock := twoPlaces hour ++ ":" ++ twoPlaces minute ++ ":" ++ twoPlaces second
          return some (clock ++ (← fraction))
        else return none

/-- Takes the distance of a time from universal time, if it stands next. No distance is
never behind. -/
def offset : Reader String := do
  let universal ← if ← Scan.accept ['Z'] then pure true else Scan.accept ['z']
  if universal then return "Z"
  else
    let behind ← Scan.accept ['-']
    let signed ← if behind then pure true else Scan.accept ['+']
    if signed then
      let hours ← twoDigits 0 23
      expect [':']
      let minutes ← twoDigits 0 59
      let sign := if behind ∧ (hours, minutes) ≠ (0, 0) then "-" else "+"
      return sign ++ twoPlaces hours ++ ":" ++ twoPlaces minutes
    else return ""

/-- Takes what stands between a date and a time of day, if it stands next. -/
def dateEnd? : Reader Bool := do
  if ← Scan.accept ['T'] then return true
  else if ← Scan.accept ['t'] then return true
  else Scan.accept [' ']

/-- Takes a date, a time of day or both, if they stand next. -/
def dateTime? : Reader (Option Toml) := do
  match ← date? with
  | some date =>
      let timed ← Scan.attempt do
        if ← dateEnd? then time? else return none
      match timed with
      | some time => return some (.dateTime (date ++ "T" ++ time ++ (← offset)))
      | none => return some (.dateTime date)
  | none => return (← time?).map .dateTime

/-! ## Numbers -/

/-- Whether every underscore among some characters stands between two digits. -/
def underscoresBetween : List Char → Bool
  | [] => false
  | ['_'] => false
  | '_' :: _ => false
  | [_] => true
  | _ :: '_' :: rest => underscoresBetween rest
  | _ :: rest => underscoresBetween rest

/-- Digits with underscores between them. -/
def digitRun (isDigit : Char → Bool) : Reader (List Char) := do
  let run ← Scan.takeWhile fun c => isDigit c || c == '_'
  if underscoresBetween run then return run.filter (· != '_') else Scan.fail .badNumber

/-- An integer of 64 bits. -/
def integerOf (value : Int) : Reader Toml :=
  if Int64.minValue.toInt ≤ value ∧ value ≤ Int64.maxValue.toInt then return .integer value
  else Scan.fail .numberOutOfRange

/-- Whether a decimal is too large for double precision. The digits in front of the
point settle it far from the limit. -/
def isTooLarge (digits : List Char) (exponent : Int) : Bool :=
  let significant := digits.dropWhile (· == '0')
  let order := significant.length + exponent
  if significant.isEmpty then false
  else if order < 0 then false
  else if 400 < order then true
  else
    let significand := Text.natOfDigits significant
    (Float.ofScientific significand (exponent < 0) exponent.natAbs).isInf

/-- The exponent of a number, if it has one. -/
def exponent? : Reader (Option Int) := do
  let marked ← if ← Scan.accept ['e'] then pure true else Scan.accept ['E']
  if marked then
    let negative ← Scan.accept ['-']
    unless negative do discard (Scan.accept ['+'])
    let size : Int := Text.natOfDigits (← digitRun Char.isDigit)
    return some (if negative then -size else size)
  else return none

/-- A number in decimal digits, after its sign. -/
def decimalNumber (negative : Bool) : Reader Toml := do
  let whole ← digitRun Char.isDigit
  if whole.head? = some '0' ∧ 1 < whole.length then Scan.fail .badNumber
  let fraction ← if ← Scan.accept ['.'] then digitRun Char.isDigit else pure []
  let exponent ← exponent?
  if fraction.isEmpty && exponent.isNone then
    let size : Int := Text.natOfDigits whole
    integerOf (if negative then -size else size)
  else
    if !negative && isTooLarge (whole ++ fraction) (exponent.getD 0 - fraction.length) then
      Scan.fail .numberOutOfRange
    return .float

/-- An integer in a base that a sign in front of it names. -/
def basedInteger (base : Nat) : Reader Toml := do
  let digits ← digitRun fun c => (Text.hexValue? c).any (· < base)
  integerOf (Text.natOfDigitsIn base digits)

/-- A number, or one of the special values. -/
def number : Reader Toml := do
  if ← Scan.accept ['0', 'x'] then basedInteger 16
  else if ← Scan.accept ['0', 'o'] then basedInteger 8
  else if ← Scan.accept ['0', 'b'] then basedInteger 2
  else
    let negative ← Scan.accept ['-']
    unless negative do discard (Scan.accept ['+'])
    if ← Scan.accept ['i', 'n', 'f'] then return .float
    else if ← Scan.accept ['n', 'a', 'n'] then return .float
    else decimalNumber negative

end TaskQuery.Toml
