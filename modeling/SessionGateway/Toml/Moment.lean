import SessionGateway.Text.Ascii
import SessionGateway.Toml.Reader

/-!
# Moments

Dates, times of day and both together, with an optional offset.  No setting
holds a moment, so one is read for its form and for naming a day that exists.
-/

namespace SessionGateway.Toml

open Reader

/-- Takes a number of a fixed count of digits in a range. -/
def numberOf (count least greatest : Nat) : Reader Nat := do
  match Text.decimal? (← times count Char.isDigit) with
  | some value => if least ≤ value ∧ value ≤ greatest then return value else failure
  | none => failure

/-- The number of days of a month. -/
def daysOfMonth (year month : Nat) : Nat :=
  if month = 2 then
    if year % 4 = 0 ∧ (year % 100 ≠ 0 ∨ year % 400 = 0) then 29 else 28
  else if month = 4 ∨ month = 6 ∨ month = 9 ∨ month = 11 then
    30
  else
    31

/-- Takes a date. -/
def date : Reader Unit := do
  let year ← numberOf 4 0 9999
  exactly "-"
  let month ← numberOf 2 1 12
  exactly "-"
  let _ ← numberOf 2 1 (daysOfMonth year month)

/-- Takes a time of day; its last minute may have a leap second. -/
def timeOfDay : Reader Unit := do
  let _ ← numberOf 2 0 23
  exactly ":"
  let _ ← numberOf 2 0 59
  exactly ":"
  let _ ← numberOf 2 0 60
  let _ ← optional do
    exactly "."
    let _ ← one Char.isDigit
    let _ ← all Char.isDigit

/-- Takes an offset from universal time. -/
def offset : Reader Unit := do
  match ← one fun character => "Zz+-".toList.contains character with
  | 'Z' | 'z' => return ()
  | _ => do
      let _ ← numberOf 2 0 23
      exactly ":"
      let _ ← numberOf 2 0 59

/-- Takes a moment. -/
def moment : Reader Unit :=
  (do
    date
    let _ ← optional do
      let _ ← one fun character => "Tt ".toList.contains character
      timeOfDay
      optional offset) <|> timeOfDay

end SessionGateway.Toml
