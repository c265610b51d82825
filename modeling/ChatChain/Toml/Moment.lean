import ChatChain.Number.Decimal
import ChatChain.Toml.Reader

/-!
# Dates and times

A date, a time of day, or both with an optional offset.  A date must exist in its year, and the
seconds go up to 60.
-/

namespace ChatChain.Toml

/-- The number of days of a month. -/
def daysIn (year month : Nat) : Nat :=
  if month = 2 then
    if year % 4 = 0 ∧ (year % 100 ≠ 0 ∨ year % 400 = 0) then 29 else 28
  else if [4, 6, 9, 11].contains month then 30
  else 31

namespace Reader

/-- A number of exactly `n` digits between two bounds. -/
def fixed (n least greatest : Nat) : Reader Nat := fun cs =>
  let digits := cs.take n
  let value := Number.ofDigits digits
  if digits.length = n ∧ digits.all Char.isDigit ∧ least ≤ value ∧ value ≤ greatest then
    some (value, cs.drop n)
  else
    none

/-- A date. -/
def date : Reader Unit := do
  let year ← fixed 4 0 9999
  let _ ← char '-'
  let month ← fixed 2 1 12
  let _ ← char '-'
  let _ ← fixed 2 1 (daysIn year month)

/-- A time of day. -/
def timeOfDay : Reader Unit := do
  let _ ← fixed 2 0 23
  let _ ← char ':'
  let _ ← fixed 2 0 59
  let _ ← char ':'
  let _ ← fixed 2 0 60
  let _ ← optional (char '.' *> span1 Char.isDigit)

/-- An offset from universal time. -/
def offset : Reader Unit :=
  (do let _ ← satisfying fun c => c == 'Z' || c == 'z') <|> (do
    let _ ← satisfying fun c => c == '+' || c == '-'
    let _ ← fixed 2 0 23
    let _ ← char ':'
    let _ ← fixed 2 0 59)

/-- A time of day behind a date. -/
def timeBehindDate : Reader Unit := do
  let _ ← satisfying fun c => c == 'T' || c == 't' || c == ' '
  timeOfDay
  let _ ← optional offset

/-- A date, a time or both, as written. -/
def moment : Reader String := fun cs => do
  let whole : Reader Unit := (do date; let _ ← optional timeBehindDate) <|> timeOfDay
  let ((), rest) ← whole cs
  return (String.ofList (cs.take (cs.length - rest.length)), rest)

end Reader

end ChatChain.Toml
