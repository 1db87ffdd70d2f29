import TransitForecast.Text.Blank
import TransitForecast.Decimal.Integer

/-!
# TransitForecast — calendar dates

Dates of the proleptic Gregorian calendar, kept as the number of days since 1970-01-01. A cycle of
400 years has 146097 days; within a cycle years are counted from March, so that
the leap day is the last of its year.
-/

namespace TransitForecast

/-- A calendar date, as days since 1970-01-01. -/
structure Date where
  days : Int
  deriving DecidableEq, Repr

/-- Year, month and day of a date. -/
structure Civil where
  year : Int
  month : Nat
  day : Nat
  deriving DecidableEq, Repr

namespace Date

/-- Days from 0000-03-01 to 1970-01-01. -/
def epochShift : Int := 719468

/-- Days before the month that is `m` months after March. -/
def daysBeforeMonth (m : Nat) : Nat := (153 * m + 2) / 5

/-- Days before a year of the cycle that starts in March. -/
def daysBeforeYear (y : Nat) : Nat := 365 * y + y / 4 - y / 100

/-- The date with the given year, month and day; the month counts from 1. -/
def ofCivil (c : Civil) : Date :=
  let year := if c.month ≤ 2 then c.year - 1 else c.year
  let cycle := year / 400
  let yearOfCycle := (year % 400).toNat
  let monthFromMarch := (c.month + 9) % 12
  let dayOfCycle := daysBeforeYear yearOfCycle + daysBeforeMonth monthFromMarch + (c.day - 1)
  ⟨cycle * 146097 + dayOfCycle - epochShift⟩

/-- Year, month and day of a date. -/
def civil (d : Date) : Civil :=
  let shifted := d.days + epochShift
  let cycle := shifted / 146097
  let dayOfCycle := (shifted % 146097).toNat
  let yearOfCycle :=
    (dayOfCycle - dayOfCycle / 1460 + dayOfCycle / 36524 - dayOfCycle / 146096) / 365
  let dayOfYear := dayOfCycle - daysBeforeYear yearOfCycle
  let monthFromMarch := (5 * dayOfYear + 2) / 153
  let day := dayOfYear - daysBeforeMonth monthFromMarch + 1
  let month := if monthFromMarch < 10 then monthFromMarch + 3 else monthFromMarch - 9
  let year := yearOfCycle + cycle * 400
  ⟨if month ≤ 2 then year + 1 else year, month, day⟩

/-- First and last year of the dates in use. -/
def years : Decimal.Bounds := ⟨-262143, 262142⟩

/-- The date with the given year, month and day, if there is such a day. -/
def ofCivil? (c : Civil) : Option Date :=
  let d := ofCivil c
  if years.holds c.year && decide (d.civil = c) then some d else none

/-- The day of the week, Sunday being 0. -/
def weekday (d : Date) : Nat := ((d.days + 4) % 7).toNat

-- ---------------------------------------------------------------------------
-- Text
-- ---------------------------------------------------------------------------

/-- A number of at least `width` digits. -/
def padded (width : Nat) (n : Nat) : String :=
  let ds := Nat.toDigits 10 n
  String.ofList (List.replicate (width - ds.length) '0' ++ ds)

/-- A year: four digits, or a sign and at least four digits outside the years 0 to 9999. -/
def yearText (year : Int) : String :=
  if 0 ≤ year ∧ year ≤ 9999 then padded 4 year.toNat
  else (if year < 0 then "-" else "+") ++ padded 4 year.natAbs

/-- Year, month and day with dashes between them. -/
def text (d : Date) : String :=
  let c := d.civil
  yearText c.year ++ "-" ++ padded 2 c.month ++ "-" ++ padded 2 c.day

end Date

/-- What reads a part of a time text from its front. -/
abbrev TimeReader := StateT (List Char) Option

namespace TimeReader

/-- Skips blanks. -/
def blanks : TimeReader Unit := modify Text.dropBlanks

/-- Skips one given character. -/
def char (c : Char) : TimeReader Unit := fun cs =>
  match cs with
  | d :: rest => if d = c then some ((), rest) else none
  | [] => none

/-- The first digits of a text, at most as many as the limit. -/
def leadingDigits (limit : Option Nat) (cs : List Char) : List Char :=
  let ds := cs.takeWhile Char.isDigit
  match limit with
  | some n => ds.take n
  | none => ds

/-- A number of at least one digit and at most as many as the limit, after blanks. -/
def number (limit : Option Nat) : TimeReader Nat := do
  blanks
  let ds := leadingDigits limit (← get)
  let n ← (Decimal.natural? ds : Option Nat)
  modify (List.drop ds.length)
  return n

/-- A year: four digits at most, or a sign and any number of digits. -/
def year : TimeReader Int := do
  blanks
  match ← get with
  | '-' :: rest => set rest; signed (-1)
  | '+' :: rest => set rest; signed 1
  | _ => return (← number (some 4))
where
  /-- Digits right after a sign. -/
  signed (sign : Int) : TimeReader Int := do
    match ← get with
    | c :: _ => if c.isDigit then return sign * (← number none) else failure
    | [] => failure

/-- A number of one or two digits in a range. -/
def twoDigits (lo hi : Nat) : TimeReader Nat := do
  let n ← number (some 2)
  if lo ≤ n ∧ n ≤ hi then return n else failure

end TimeReader

/-- A date: year, month and day with dashes between them. Blanks may stand before the numbers, and
if it is `airy` before the dashes too. -/
def TimeReader.date (airy : Bool) : TimeReader Date := do
  let pause : TimeReader Unit := if airy then TimeReader.blanks else pure ()
  let year ← TimeReader.year
  pause
  TimeReader.char '-'
  let month ← TimeReader.twoDigits 1 12
  pause
  TimeReader.char '-'
  let day ← TimeReader.twoDigits 1 31
  (Date.ofCivil? ⟨year, month, day⟩ : Option Date)

/-- Reads a date with nothing after it. -/
def Date.ofText? (s : String) : Option Date :=
  match TimeReader.date false s.toList with
  | some (d, []) => some d
  | _ => none

/-- Reads a date with blanks around any part of it. -/
def Date.ofAiryText? (s : String) : Option Date :=
  match TimeReader.date true s.toList with
  | some (d, rest) => if (Text.dropBlanks rest).isEmpty then some d else none
  | none => none

end TransitForecast
