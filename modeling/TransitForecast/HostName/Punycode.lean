/-!
# TransitForecast — host names in plain letters

A label with letters of any script is also written with plain letters, digits and
hyphens: its plain characters, a hyphen, and a row of numbers that tell which
other characters go where. Each number is the distance to the next place, counted
through all places of all characters in turn, and its digits are in base thirty-six, the
least first, with a bound for each place that tells the last digit.
-/

namespace TransitForecast.HostName.Punycode

/-- The value of a digit. -/
def digit? (c : Char) : Option Nat :=
  if c.isLower then some (c.toNat - 'a'.toNat)
  else if c.isUpper then some (c.toNat - 'A'.toNat)
  else if c.isDigit then some (c.toNat - '0'.toNat + 26)
  else none

/-- The digit of a value. -/
def digitOf (n : Nat) : Char :=
  if n < 26 then Char.ofNat ('a'.toNat + n) else Char.ofNat ('0'.toNat + (n - 26))

/-- The first code point that is not plain. -/
def firstCode : Nat := 0x80

/-- What the bounds start with. -/
def firstBias : Nat := 72

/-- The bound of the digit at a place, which counts in steps of thirty-six: a digit below it is the
last. -/
def bound (bias place : Nat) : Nat :=
  if place ≤ bias then 1 else if bias + 26 ≤ place then 26 else place - bias

theorem bound_pos (bias place : Nat) : 1 ≤ bound bias place := by
  unfold bound
  repeat' split
  all_goals omega

/-- Makes a distance small, and counts the digits that this takes. -/
def shrink (distance places : Nat) : Nat × Nat :=
  if 455 < distance then shrink (distance / 35) (places + 36) else (distance, places)
termination_by distance
decreasing_by exact Nat.div_lt_self (by omega) (by omega)

/-- The bias after a distance: similar distances are expected to follow. -/
def adapt (distance count : Nat) (first : Bool) : Nat :=
  let damped := if first then distance / 700 else distance / 2
  let (small, places) := shrink (damped + damped / count) 0
  places + 36 * small / (small + 38)

-- ---------------------------------------------------------------------------
-- Reading
-- ---------------------------------------------------------------------------

/-- Numbers stay below this. -/
def limit : Nat := 0x100000000

/-- Reads a number and adds it to `total`; what follows it is left. -/
def readNumber? (bias place weight total : Nat) : List Char → Option (Nat × List Char)
  | [] => none
  | c :: rest =>
    match digit? c with
    | none => none
    | some d =>
      let total := total + d * weight
      let b := bound bias place
      if limit ≤ total then none
      else if d < b then some (total, rest)
      else if limit ≤ weight * (36 - b) then none
      else readNumber? bias (place + 36) (weight * (36 - b)) total rest

theorem readNumber?_shorter {bias place weight total : Nat} : ∀ {cs : List Char} {n : Nat}
    {rest : List Char}, readNumber? bias place weight total cs = some (n, rest) →
      rest.length < cs.length
  | [], _, _, h => by simp [readNumber?] at h
  | c :: cs, n, rest, h => by
    unfold readNumber? at h
    split at h
    · cases h
    · dsimp only at h
      split at h
      · cases h
      · split at h
        · cases h
          simp
        · split at h
          · cases h
          · have := readNumber?_shorter h
            simp only [List.length_cons]
            omega

/-- What is known when a number is read: the characters so far, and the code point and the place
that the distance is counted from. -/
structure Progress where
  chars : List Char
  code : Nat
  place : Nat
  bias : Nat

/-- Puts in the character that a distance leads to; none if no character has the code point. -/
def Progress.insert? (p : Progress) (target : Nat) : Option Progress :=
  let count := p.chars.length + 1
  let code := p.code + target / count
  let place := target % count
  if code.isValidChar then
    some ⟨p.chars.take place ++ Char.ofNat code :: p.chars.drop place, code, place + 1,
      adapt (target - p.place) count (p.place = 0)⟩
  else none

/-- Reads all numbers. -/
def readAll? (p : Progress) (cs : List Char) : Option (List Char) :=
  if cs.isEmpty then some p.chars
  else
    match _h : readNumber? p.bias 36 1 p.place cs with
    | none => none
    | some (target, rest) =>
      match p.insert? target with
      | none => none
      | some next => readAll? next rest
termination_by cs.length
decreasing_by exact readNumber?_shorter _h

/-- The plain characters before the last hyphen, and what follows it. A hyphen in front is none. -/
def cut (cs : List Char) : List Char × List Char :=
  let tail := (cs.reverse.takeWhile (· ≠ '-')).reverse
  let plain := cs.take (cs.length - tail.length - 1)
  if plain.isEmpty then ([], cs) else (plain, tail)

/-- The label of a text in plain letters. -/
def decode? (cs : List Char) : Option (List Char) :=
  let (plain, numbers) := cut cs
  readAll? ⟨plain.map Char.toLower, firstCode, 0, firstBias⟩ numbers

-- ---------------------------------------------------------------------------
-- Writing
-- ---------------------------------------------------------------------------

/-- The digits of a number. -/
def digits (bias place n : Nat) : List Char :=
  let b := bound bias place
  if n < b then [digitOf n]
  else digitOf (b + (n - b) % (36 - b)) :: digits bias (place + 36) ((n - b) / (36 - b))
termination_by n
decreasing_by
  have := bound_pos bias place
  calc (n - bound bias place) / (36 - bound bias place)
      ≤ n - bound bias place := Nat.div_le_self _ _
    _ < n := by omega

/-- What is known when a character is written: the text so far, the distance since the last
number, and how many characters are in. -/
structure Draft where
  text : List Char
  distance : Nat
  bias : Nat
  count : Nat

/-- Passes a character of the label in the turn of a code point. -/
def Draft.pass (plain code : Nat) (d : Draft) (c : Char) : Draft :=
  if c.toNat < code then ⟨d.text, d.distance + 1, d.bias, d.count⟩
  else if c.toNat = code then
    ⟨d.text ++ digits d.bias 36 d.distance, 0,
      adapt d.distance (d.count + 1) (d.count = plain), d.count + 1⟩
  else d

/-- Writes the characters of the code points that are left, each in its turn. -/
def Draft.write (label : List Char) (plain : Nat) : List Nat → Nat → Draft → List Char
  | [], _, d => d.text
  | code :: rest, after, d =>
    let start : Draft := ⟨d.text, d.distance + (code - after) * (d.count + 1), d.bias, d.count⟩
    let done := label.foldl (Draft.pass plain code) start
    Draft.write label plain rest (code + 1) ⟨done.text, done.distance + 1, done.bias, done.count⟩

/-- Puts a number into an ascending list without repetition. -/
def insertOnce (n : Nat) : List Nat → List Nat
  | [] => [n]
  | m :: rest =>
    if n < m then n :: m :: rest
    else if n = m then m :: rest
    else m :: insertOnce n rest

/-- A label in plain letters. -/
def encode (label : List Char) : List Char :=
  let plain := label.filter fun c => c.toNat < firstCode
  let codes := (label.filter fun c => firstCode ≤ c.toNat).foldr (fun c => insertOnce c.toNat) []
  let start := if plain.isEmpty then [] else plain ++ ['-']
  Draft.write label plain.length codes firstCode ⟨start, 0, firstBias, plain.length⟩

end TransitForecast.HostName.Punycode
