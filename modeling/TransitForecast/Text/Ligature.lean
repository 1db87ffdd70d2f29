import TransitForecast.Text.Spacing

/-!
# TransitForecast — joined letters

Letters that are drawn as one, or take less room, because of the letter after
them. A text is read from its end, so that what follows a character is known
when the character is met.
-/

namespace TransitForecast.Text

/-- A letter, or the end of a row of letters, that the letters before it may join. -/
inductive Joinable
  /-- The Arabic alef, which a lam before it joins. -/
  | alef
  /-- The Hebrew lamed, which an alef before it joins. -/
  | lamed
  /-- A Khmer letter, which a coeng before it draws below another. -/
  | coengLetter
  /-- The Buginese ya. -/
  | ya
  /-- The Buginese ya with its vowel. -/
  | vowelYa
  /-- A Tifinagh consonant. -/
  | consonant
  /-- A Tifinagh consonant with the sign that joins two. -/
  | joinedConsonant
  /-- The second of two Lisu tones. -/
  | tone
  /-- The Old Turkic letter i. -/
  | orkhonI
  /-- The Kirat Rai vowel e, a part of longer vowels. -/
  | vowelE
  /-- The Kirat Rai vowel ai. -/
  | vowelAi
  deriving DecidableEq, Repr

/-- The letters that an alef is written with. -/
def alefLetters : Ranges := [
  (0x622, 0x623), (0x625, 0x625), (0x627, 0x627), (0x671, 0x673), (0x675, 0x675), (0x773, 0x774),
  (0x870, 0x882)]

/-- The letters that a lam is written with. -/
def lamLetters : Ranges := [
  (0x644, 0x644), (0x6b5, 0x6b8), (0x76a, 0x76a), (0x8a6, 0x8a6), (0x8c7, 0x8c7)]

/-- The Khmer letters that are drawn below another. -/
def coengLetters : Ranges := [
  (0x1780, 0x1782), (0x1784, 0x1787), (0x1789, 0x178c), (0x178e, 0x1793), (0x1795, 0x1798),
  (0x179b, 0x179d), (0x17a0, 0x17a0), (0x17a2, 0x17a2), (0x17a7, 0x17a7), (0x17ab, 0x17ac),
  (0x17af, 0x17af)]

/-- The Tifinagh consonants. -/
def tifinaghConsonants : Ranges := [(0x2d31, 0x2d65), (0x2d6f, 0x2d6f)]

/-- The first of two Lisu tones. -/
def firstTones : Ranges := [(0xa4f8, 0xa4fb)]

/-- The second of two Lisu tones. -/
def secondTones : Ranges := [(0xa4fc, 0xa4fd)]

/-- A mark that is drawn on the letter before it and does not part it from the next. -/
def isTransparent (c : Char) : Bool := columnsAlone c = 0 && !partingCharacters.holds c

namespace Joinable

/-- The character as one that may be joined. -/
def ofChar? (c : Char) : Option Joinable :=
  if alefLetters.holds c then some alef
  else if c = Char.ofNat 0x5dc then some lamed
  else if coengLetters.holds c then some coengLetter
  else if c = Char.ofNat 0x1a10 then some ya
  else if tifinaghConsonants.holds c then some consonant
  else if secondTones.holds c then some tone
  else if c = Char.ofNat 0x10c03 then some orkhonI
  else if c = Char.ofNat 0x16d67 then some vowelE
  else if c = Char.ofNat 0x16d68 then some vowelAi
  else none

/-- What a character does that joins the letters after it: the columns that it adds, and what the
letters before it may join. `joined` tells of a joiner in between. -/
def join? (after : Joinable) (joined : Bool) (c : Char) : Option (Int × Option Joinable) :=
  match after with
  | alef =>
    if lamLetters.holds c then some (0, none)
    else if isTransparent c then some (0, some alef)
    else none
  | lamed => if joined && c = Char.ofNat 0x5d0 then some (0, none) else none
  | coengLetter => if c = Char.ofNat 0x17d2 then some (-1, none) else none
  | ya => if joined && c = Char.ofNat 0x1a17 then some (0, some vowelYa) else none
  | vowelYa => if c = Char.ofNat 0x1a15 then some (0, none) else none
  | consonant =>
    if c = Char.ofNat 0x2d7f then some (1, some joinedConsonant)
    else if joined && tifinaghConsonants.holds c then some (0, none)
    else none
  | joinedConsonant => if tifinaghConsonants.holds c then some (-1, none) else none
  | tone => if firstTones.holds c then some (0, none) else none
  | orkhonI => if joined && c = Char.ofNat 0x10c32 then some (0, none) else none
  | vowelE =>
    if c = Char.ofNat 0x16d63 || c = Char.ofNat 0x16d69 then some (0, none)
    else if c = Char.ofNat 0x16d67 then some (0, some vowelAi)
    else if c = Char.ofNat 0x16d68 then some (1, some vowelE)
    else none
  | vowelAi => if c = Char.ofNat 0x16d63 then some (0, none) else none

end Joinable

end TransitForecast.Text
