import Presentment.Der.Element

/-!
# Times

A time is written with two or four digits for the year and two each for month, day, hour,
minute and second, followed by `Z`.  Two digits stand for a year from 1950 to 2049.  It
counts as seconds since the start of 1970, and no earlier time is read.
-/

namespace Presentment.Der

/-- A point in time in its written form. -/
structure Time where
  written : Element
  seconds : Nat
  deriving DecidableEq

namespace Time

def isLeapYear (year : Nat) : Bool :=
  year % 4 == 0 && (year % 100 != 0 || year % 400 == 0)

/-- How many days a month has. -/
def daysOfMonth (year month : Nat) : Nat :=
  if month = 2 then if isLeapYear year then 29 else 28
  else if [4, 6, 9, 11].contains month then 30
  else 31

/-- How many days lie between the start of 1970 and the start of a year. -/
def daysBeforeYear (year : Nat) : Nat :=
  (year - 1970) * 365 + ((year - 1) / 4 - 1969 / 4) - ((year - 1) / 100 - 1969 / 100)
    + ((year - 1) / 400 - 1969 / 400)

/-- How many days of a year lie before a month. -/
def daysBeforeMonth (year : Nat) : (month : Nat) → Nat
  | 0 => 0
  | month + 1 => if month = 0 then 0 else daysBeforeMonth year month + daysOfMonth year month

/-- The seconds of a date and a time of day, if there is such a date. -/
def seconds? (year month day hour minute second : Nat) : Option Nat :=
  if 1970 ≤ year ∧ 1 ≤ month ∧ month ≤ 12 ∧ 1 ≤ day ∧ day ≤ daysOfMonth year month
      ∧ hour < 24 ∧ minute < 60 ∧ second < 60 then
    let days := daysBeforeYear year + daysBeforeMonth year month + (day - 1)
    some (((days * 24 + hour) * 60 + minute) * 60 + second)
  else none

/-- The value of a decimal digit. -/
def digit? (b : UInt8) : Option Nat :=
  if 0x30 ≤ b ∧ b ≤ 0x39 then some (b.toNat - 0x30) else none

/-- The numbers of two digits each that a text consists of. -/
def pairs? : Bytes → Option (List Nat)
  | [] => some []
  | [_] => none
  | a :: b :: rest => do
    let high ← digit? a
    let low ← digit? b
    return (10 * high + low) :: (← pairs? rest)

/-- The full year of a year in two digits. -/
def fullYear (year : Nat) : Nat :=
  if year ≥ 50 then 1900 + year else 2000 + year

/-- The seconds of a written time. -/
def secondsOf? (e : Element) : Option Nat := do
  guard (e.content.getLast? = some 0x5A)
  match e.tag == Tag.utcTime, e.tag == Tag.generalizedTime, ← pairs? e.content.dropLast with
  | true, _, [year, month, day, hour, minute, second] =>
    seconds? (fullYear year) month day hour minute second
  | _, true, [century, year, month, day, hour, minute, second] =>
    seconds? (100 * century + year) month day hour minute second
  | _, _, _ => none

/-- Reads a time. -/
def parse : Parse Time := do
  let e ← element
  match secondsOf? e with
  | some seconds => return ⟨e, seconds⟩
  | none => failure

end Time

end Presentment.Der
