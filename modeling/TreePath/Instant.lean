import TreePath.Number.Shortest

/-!
# Instants

An instant is a second of universal time, counted from the beginning of 1970, and the nanoseconds within it.
The second before a leap second is twice as long: its nanoseconds go on beyond one thousand million.
Instants are read and written in the format of RFC 3339; the writing is in universal time and as short as
is exact.
-/

namespace TreePath

/-- A moment in universal time. -/
structure Instant where
  seconds : Int
  nanoseconds : Fin 2000000000
deriving DecidableEq

namespace Instant

/-- The order of two instants in time. -/
def compare (left right : Instant) : Ordering :=
  (Ord.compare left.seconds right.seconds).then
    (Ord.compare left.nanoseconds.val right.nanoseconds.val)

/-! ## The calendar -/

/-- Whether a year has a 29th of February. -/
def isLeapYear (year : Int) : Bool :=
  year % 4 = 0 ∧ (year % 100 ≠ 0 ∨ year % 400 = 0)

def daysInMonth (year : Int) (month : Nat) : Nat :=
  if month = 2 then (if isLeapYear year then 29 else 28)
  else if month = 4 ∨ month = 6 ∨ month = 9 ∨ month = 11 then 30
  else 31

/-- The days from the beginning of 1970 to a date. Years are counted from March, so that the leap day is last. -/
def daysOfDate (year : Int) (month day : Nat) : Int :=
  let year := if month ≤ 2 then year - 1 else year
  let monthFromMarch := (month + 9) % 12
  year * 365 + year / 4 - year / 100 + year / 400 + (153 * monthFromMarch + 2) / 5 + day - 719469

/-- The year, month and day that lie a number of days after the beginning of 1970. -/
def dateOfDays (days : Int) : Int × Nat × Nat :=
  let shifted := days + 719468
  let era := shifted / 146097
  let dayOfEra := (shifted % 146097).toNat
  let yearOfEra := (dayOfEra - dayOfEra / 1460 + dayOfEra / 36524 - dayOfEra / 146096) / 365
  let dayOfYear := dayOfEra - (365 * yearOfEra + yearOfEra / 4 - yearOfEra / 100)
  let monthFromMarch := (5 * dayOfYear + 2) / 153
  let day := dayOfYear - (153 * monthFromMarch + 2) / 5 + 1
  let month := if monthFromMarch < 10 then monthFromMarch + 3 else monthFromMarch - 9
  let year := era * 400 + yearOfEra
  (if month ≤ 2 then year + 1 else year, month, day)

example : daysOfDate 1970 1 1 = 0 ∧ daysOfDate 2000 2 29 = 11016 := by decide
example : dateOfDays 11016 = (2000, 2, 29) ∧ dateOfDays (-719529) = (-1, 12, 31) := by decide

/-! ## Reading -/

/-- A fixed number of digits at the beginning of a text. -/
def readDigits? (count : Nat) (text : List Char) : Option (Nat × List Char) :=
  let digits := text.take count
  if digits.length = count ∧ digits.all isDigit then some (digitsValue digits, text.drop count) else none

/-- One of some characters at the beginning of a text. -/
def readMark? (marks : List Char) : List Char → Option (List Char)
  | c :: text => if marks.contains c then some text else none
  | [] => none

/-- The nanoseconds of an optional fraction of a second. Digits past the ninth count for nothing. -/
def readFraction? : List Char → Option (Nat × List Char)
  | '.' :: text =>
    let digits := text.takeWhile isDigit
    let kept := digits.take 9
    if digits.isEmpty then none
    else some (digitsValue kept * 10 ^ (9 - kept.length), text.drop digits.length)
  | text => some (0, text)

/-- The distance of a local time from universal time, in seconds. -/
def readOffset? : List Char → Option (Int × List Char)
  | 'Z' :: text => some (0, text)
  | 'z' :: text => some (0, text)
  | sign :: text => do
    let negative ← if sign = '+' then some false else if sign = '-' ∨ sign = '−' then some true else none
    let (hours, text) ← readDigits? 2 text
    let text ← readMark? [':'] text
    let (minutes, text) ← readDigits? 2 text
    if hours < 24 ∧ minutes < 60 then
      let seconds : Int := 3600 * hours + 60 * minutes
      some (if negative then -seconds else seconds, text)
    else none
  | [] => none

def ofText? (text : List Char) : Option Instant := do
  let (year, text) ← readDigits? 4 text
  let text ← readMark? ['-'] text
  let (month, text) ← readDigits? 2 text
  let text ← readMark? ['-'] text
  let (day, text) ← readDigits? 2 text
  let text ← readMark? ['T', 't', ' '] text
  let (hour, text) ← readDigits? 2 text
  let text ← readMark? [':'] text
  let (minute, text) ← readDigits? 2 text
  let text ← readMark? [':'] text
  let (second, text) ← readDigits? 2 text
  let (nanoseconds, text) ← readFraction? text
  let (offset, text) ← readOffset? text
  let isDate := 1 ≤ month ∧ month ≤ 12 ∧ 1 ≤ day ∧ day ≤ daysInMonth year month
  let isTime := hour < 24 ∧ minute < 60 ∧ second ≤ 60
  if text.isEmpty ∧ isDate ∧ isTime then
    let elapsed := daysOfDate year month day * 86400 + hour * 3600 + minute * 60 + min second 59 - offset
    let total := if second = 60 then nanoseconds + 1000000000 else nanoseconds
    if small : total < 2000000000 then some ⟨elapsed, ⟨total, small⟩⟩ else none
  else none

/-! ## Writing -/

def padded (width n : Nat) : List Char :=
  let digits := natDigits n
  List.replicate (width - digits.length) '0' ++ digits

/-- A year: four digits, or a sign and at least four digits outside of the years 0 to 9999. -/
def yearText (year : Int) : List Char :=
  if 0 ≤ year ∧ year ≤ 9999 then padded 4 year.toNat
  else (if year < 0 then '-' else '+') :: padded 4 year.natAbs

/-- The fraction of a second in as many groups of three digits as are exact. -/
def fractionText (nanoseconds : Nat) : List Char :=
  if nanoseconds = 0 then []
  else if nanoseconds % 1000000 = 0 then '.' :: padded 3 (nanoseconds / 1000000)
  else if nanoseconds % 1000 = 0 then '.' :: padded 6 (nanoseconds / 1000)
  else '.' :: padded 9 nanoseconds

/-- The text of an instant, in universal time. -/
def toText (instant : Instant) : List Char :=
  let (year, month, day) := dateOfDays (instant.seconds / 86400)
  let secondOfDay := (instant.seconds % 86400).toNat
  let isLeap := 1000000000 ≤ instant.nanoseconds.val
  let second := secondOfDay % 60 + (if isLeap then 1 else 0)
  let fraction := if isLeap then instant.nanoseconds.val - 1000000000 else instant.nanoseconds.val
  yearText year ++ '-' :: padded 2 month ++ '-' :: padded 2 day ++
    'T' :: padded 2 (secondOfDay / 3600) ++ ':' :: padded 2 (secondOfDay / 60 % 60) ++
    ':' :: padded 2 second ++ fractionText fraction ++ "+00:00".toList

end Instant

end TreePath
