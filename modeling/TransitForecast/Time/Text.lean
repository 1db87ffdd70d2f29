import TransitForecast.Time.Instant

/-!
# TransitForecast — instants as text

The text of an instant is its date and time in UTC with a `Z` behind, and as few of 3, 6 or 9
fraction digits as show it exactly, or none. Reading is more lenient: numbers may
have fewer digits, blanks may stand before them, the time may follow a blank instead of a `T`, and
any zone offset below a day is accepted. A missing zone is not.
-/

namespace TransitForecast.Instant

/-- The date of an instant in UTC. -/
def date (t : Instant) : Date := ⟨t.second / secondsPerDay⟩

/-- Nanoseconds since the last whole second, which may be a leap second. -/
def subsecond (t : Instant) : Nat := t.nanos % 1000000000

/-- Hours, minutes and seconds with colons between them; a leap second is the sixtieth of its
minute. -/
def clockText (t : Instant) : String :=
  let ofDay := t.secondOfDay
  Date.padded 2 (ofDay / 3600) ++ ":" ++ Date.padded 2 (ofDay / 60 % 60) ++ ":" ++
    Date.padded 2 (ofDay % 60 + t.nanos / 1000000000)

/-- A fraction of a second with a point before it; nothing for zero. -/
def fractionText (nanos : Nat) : String :=
  if nanos = 0 then ""
  else if nanos % 1000000 = 0 then "." ++ Date.padded 3 (nanos / 1000000)
  else if nanos % 1000 = 0 then "." ++ Date.padded 6 (nanos / 1000)
  else "." ++ Date.padded 9 nanos

/-- The text of an instant. -/
def text (t : Instant) : String :=
  t.date.text ++ "T" ++ t.clockText ++ fractionText t.subsecond ++ "Z"

/-- The text of an instant for people: whole seconds, and the zone spelled out. -/
def plainText (t : Instant) : String :=
  t.date.text ++ " " ++ t.clockText ++ " UTC"

-- ---------------------------------------------------------------------------
-- Reading
-- ---------------------------------------------------------------------------

/-- Skips the letter or blank between date and time. -/
def readSeparator : TimeReader Unit := fun cs =>
  match cs with
  | c :: rest => if c = 'T' ∨ c = 't' ∨ c = ' ' then some ((), rest) else none
  | [] => none

/-- A fraction of a second in nanoseconds: nothing, or a point and digits, of which nine count. -/
def readFraction : TimeReader Nat := fun cs =>
  match cs with
  | '.' :: rest =>
    let ds := rest.takeWhile Char.isDigit
    let kept := ds.take 9
    (Decimal.natural? kept).map fun n => (n * Nat.pow 10 (9 - kept.length), rest.drop ds.length)
  | _ => some (0, cs)

/-- Two digits with nothing before them. -/
def readPair : TimeReader Nat := fun cs =>
  match cs with
  | a :: b :: rest => (Decimal.natural? [a, b]).map fun n => (n, rest)
  | _ => none

/-- The offset of a zone from UTC in seconds: a letter `Z`, the name `UTC`, or a sign, two digits of
hours and two of minutes, with colons or blanks between them or not. -/
def readOffset : TimeReader Int := fun cs =>
  match cs with
  | [] => none
  | c :: rest =>
    if (cs.take 3).map Char.toUpper = ['U', 'T', 'C'] then some (0, cs.drop 3)
    else if c = 'Z' ∨ c = 'z' then some (0, rest)
    else if c = '+' ∨ c = '-' ∨ c = '−' then do
      let (hours, afterHours) ← readPair rest
      let (minutes, after) ← readPair (afterHours.dropWhile fun d => d = ':' || Text.isBlank d)
      guard (minutes < 60 ∧ hours < 24)
      let size : Int := hours * 3600 + minutes * 60
      return (if c = '+' then size else -size, after)
    else none

/-- The instant that a time text names. The sixtieth second of a minute is a leap second. -/
def reader : TimeReader Instant := do
  let date ← TimeReader.date true
  readSeparator
  let hour ← TimeReader.twoDigits 0 23
  TimeReader.blanks
  TimeReader.char ':'
  let minute ← TimeReader.twoDigits 0 59
  TimeReader.blanks
  TimeReader.char ':'
  let second ← TimeReader.twoDigits 0 60
  let fraction ← readFraction
  TimeReader.blanks
  let offset ← readOffset
  let ordinary : Nat := if second = 60 then 59 else second
  let leap : Nat := if second = 60 then 1000000000 else 0
  at? (date.days * secondsPerDay + hour * 3600 + minute * 60 + ordinary - offset) (leap + fraction)

/-- Reads an instant; only blanks may follow it. -/
def ofText? (s : String) : Option Instant :=
  match reader s.toList with
  | some (t, rest) => if (Text.dropBlanks rest).isEmpty then some t else none
  | none => none

end TransitForecast.Instant
