import Mathlib.Data.Int.Notation

namespace OpenProof.CivilDates

-- A date of the proleptic Gregorian calendar.
structure Date where
  year : Int
  month : Nat
  day : Nat
  deriving DecidableEq

def isLeap (year : Int) : Bool := year % 4 == 0 && (year % 100 != 0 || year % 400 == 0)

def daysInMonth (year : Int) (month : Nat) : Nat :=
  if month = 2 then (if isLeap year then 29 else 28)
  else if month = 4 ∨ month = 6 ∨ month = 9 ∨ month = 11 then 30
  else 31

def Date.ok (date : Date) : Bool :=
  1 ≤ date.month && date.month ≤ 12 && 1 ≤ date.day && date.day ≤ daysInMonth date.year date.month

def leapsBefore (year : Int) : Int := (year-1)/4 - (year-1)/100 + (year-1)/400

def daysBeforeYear (year : Int) : Int := 365*(year-1970) + (leapsBefore year - leapsBefore 1970)

def daysBeforeMonth (year : Int) (month : Nat) : Nat :=
  (List.range (month-1)).foldl (fun days before => days + daysInMonth year (before+1)) 0

def dayNumber (date : Date) : Int :=
  daysBeforeYear date.year + daysBeforeMonth date.year date.month + (date.day-1)

def ofDayNumber (number : Int) : Date :=
  let shifted := number + 719468
  let era := shifted / 146097
  let dayOfEra := shifted % 146097
  let yearOfEra := (dayOfEra - dayOfEra/1460 + dayOfEra/36524 - dayOfEra/146096)/365
  let dayOfYear := dayOfEra - (365*yearOfEra + yearOfEra/4 - yearOfEra/100)
  let shiftedMonth := (5*dayOfYear + 2)/153
  let day := dayOfYear - (153*shiftedMonth + 2)/5 + 1
  let month := if shiftedMonth < 10 then shiftedMonth + 3 else shiftedMonth - 9
  ⟨yearOfEra + era*400 + (if month ≤ 2 then 1 else 0),month.toNat,day.toNat⟩

example : ofDayNumber 0 = ⟨1970,1,1⟩ := by decide
example : ofDayNumber 11016 = ⟨2000,2,29⟩ ∧ dayNumber ⟨2000,2,29⟩ = 11016 := by decide

end OpenProof.CivilDates
