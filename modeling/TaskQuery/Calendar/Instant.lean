/-
# Instants

An instant is a date and a time of day. Texts are put in order by the instant they
stand for: a date and a time in hours and minutes, with or without seconds, or a
date alone, which is the start of its day. A second may be the sixtieth, which comes
after the fifty-ninth and before the next minute.
-/

import TaskQuery.Calendar.Reading

namespace TaskQuery

/-- A date and a time of day. -/
structure Instant where
  date : Date
  hour : Nat
  minute : Nat
  second : Nat
  deriving DecidableEq, Repr

namespace Instant

instance : Ord Instant where
  compare := compareLex (compareOn date)
    (compareLex (compareOn hour) (compareLex (compareOn minute) (compareOn second)))

/-- The start of a day. -/
def startOf (date : Date) : Instant :=
  ⟨date, 0, 0, 0⟩

end Instant

namespace PlainScan

/-- A number with a greatest value. -/
def numberUpTo (limit : Nat) : PlainScan Nat := do
  let value ← number 2
  if value ≤ limit then return value else Scan.fail ()

/-- What stands between a date and a time of day: the letter T, or blanks, of which
there may be none. -/
def dateEnd (blank : Bool) : PlainScan Unit :=
  if blank then blanks else character 'T'

/-- A date and a time of day. -/
def instant (blank seconds : Bool) : PlainScan Instant := do
  let date ← date
  dateEnd blank
  let hour ← numberUpTo 23
  character ':'
  let minute ← numberUpTo 59
  let second ← if seconds then do
      character ':'
      numberUpTo 60
    else pure 0
  return ⟨date, hour, minute, second⟩

end PlainScan

/-- The instant that a text stands for. -/
def Instant.ofText? (text : String) : Option Instant :=
  let cs := text.toList
  ((PlainScan.instant false true).whole? cs).or
    (((PlainScan.instant false false).whole? cs).or
      (((PlainScan.instant true true).whole? cs).or
        (((PlainScan.instant true false).whole? cs).or
          ((Date.ofField? text).map Instant.startOf))))

end TaskQuery
