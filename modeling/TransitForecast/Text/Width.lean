import TransitForecast.Text.Emoji
import TransitForecast.Text.Ligature

/-!
# TransitForecast — display width

How many terminal columns a text takes. Most characters take their columns
whatever stands beside them; a picture of several characters takes two, a pair
of flag letters two, and joined letters less than they would alone. The text is
read from its end, and each character is told what follows it.
-/

namespace TransitForecast.Text

/-- The joiner, which makes one picture or one letter of two. -/
def joiner : Char := Char.ofNat 0x200d

/-- The selector that asks for text. -/
def textSelector : Char := Char.ofNat 0xfe0e

/-- The selector that asks for a picture. -/
def pictureSelector : Char := Char.ofNat 0xfe0f

/-- What follows a character, as far as it may be joined. -/
inductive Joint
  | nothing
  | lineFeed
  | letter (l : Joinable)
  | skinTone
  | flagLetter
  | flagPair
  | picture
  /-- A joiner and a picture. -/
  | joinedPicture
  /-- The frame of a key before a joined picture. -/
  | joinedKey
  /-- A flag letter before a joined picture. -/
  | joinedFlag
  /-- Two or more flag letters, an even number, before a joined picture. -/
  | joinedFlagPair
  /-- Three or more flag letters, an odd number, before a joined picture. -/
  | joinedFlagOdd
  /-- The end of the name of a region, with `n` letters of it, before a joined picture. -/
  | joinedRegion (n : Nat)
  deriving DecidableEq, Repr

/-- What follows a character. -/
structure Following where
  joint : Joint := .nothing
  /-- A joiner stands before the joint. -/
  joined : Bool := false
  /-- The next character is the selector that asks for a picture. -/
  asPicture : Bool := false
  /-- The next character is the selector that asks for text. -/
  asText : Bool := false
  deriving DecidableEq, Repr

namespace Following

/-- Nothing that could be joined. -/
def plain : Following := ⟨.nothing, false, false, false⟩

/-- A joint with nothing in between. -/
def of (joint : Joint) : Following := ⟨joint, false, false, false⟩

/-- A letter that may be joined, or nothing. -/
def ofLetter (letter : Option Joinable) : Following := of (letter.elim .nothing .letter)

/-- A selector leaves letters joined. -/
def isLetter (f : Following) : Bool :=
  match f.joint with
  | .letter _ => true
  | _ => false

/-- The joined picture, or the key before it, may begin with a character that a selector makes a
picture. -/
def isJoinedPicture (f : Following) : Bool := f.joint = .joinedPicture || f.joint = .joinedKey

/-- With the selector of pictures before it. -/
def selectPicture (f : Following) : Following :=
  if f.isLetter || f.isJoinedPicture then ⟨f.joint, f.joined, true, f.asText⟩
  else ⟨.nothing, false, true, false⟩

/-- Without the selector of pictures, which did not follow a picture. -/
def ignorePicture (f : Following) : Following :=
  if !f.asPicture then f
  else if f.isLetter then ⟨f.joint, f.joined, false, f.asText⟩
  else plain

/-- With the selector of text before it. -/
def selectText (f : Following) : Following :=
  if f.isLetter then ⟨f.joint, f.joined, f.asPicture, true⟩ else ⟨.nothing, false, false, true⟩

/-- Without the selector of text, which did not follow a picture. -/
def ignoreText (f : Following) : Following := ⟨f.joint, f.joined, f.asPicture, false⟩

/-- Whether a joiner and unseen marks do not part the letter from those before it. -/
def bridges (f : Following) : Bool := f.isLetter && f.joint ≠ .letter .alef

end Following

/-- A character that joins nothing: its columns, and what the character before it meets. -/
def meetAlone (c : Char) : Int × Following :=
  if c = textSelector then (0, Following.plain.selectText)
  else if c = pictureSelector then (0, Following.plain.selectPicture)
  else if flagLetters.holds c then (1, .of .flagLetter)
  else if skinTones.holds c then (2, .of .skinTone)
  else if pictures.holds c then (2, .of .picture)
  else (columnsAlone c, .ofLetter (Joinable.ofChar? c))

/-- What a character does that is drawn as one with the pictures after it. -/
def joinPicture? (c : Char) : Joint → Option (Int × Joint)
  | .skinTone =>
    if tonedPictures.holds c then some (0, .picture)
    else if c = joiner then some (0, .joinedPicture)
    else none
  | .flagLetter => if flagLetters.holds c then some (1, .flagPair) else none
  | .flagPair =>
    if flagLetters.holds c then some (1, .flagPair)
    else if c = joiner then some (0, .joinedPicture)
    else none
  | .picture => if c = joiner then some (0, .joinedPicture) else none
  | .joinedPicture =>
    if c = Char.ofNat 0x20e3 then some (0, .joinedKey)
    else if flagLetters.holds c then some (1, .joinedFlag)
    else if skinTones.holds c then some (0, .skinTone)
    else if c = Char.ofNat 0xe007f then some (0, .joinedRegion 0)
    else if pictures.holds c then some (0, .picture)
    else none
  | .joinedFlag => if flagLetters.holds c then some (-1, .joinedFlagPair) else none
  | .joinedFlagPair =>
    if flagLetters.holds c then some (3, .joinedFlagOdd)
    else if c = joiner then some (0, .joinedPicture)
    else none
  | .joinedFlagOdd =>
    if flagLetters.holds c then some (-1, .joinedFlagPair)
    else if c = joiner then some (0, .joinedPicture)
    else none
  | .joinedRegion n =>
    if tagCharacters.holds c && n < 6 then some (0, .joinedRegion (n + 1))
    else if c = Char.ofNat 0x1f3f4 && 3 ≤ n then some (0, .picture)
    else none
  | _ => none

/-- A character above the controls that no selector asks to be a picture. -/
def meetAbove (c : Char) (next : Following) : Int × Following :=
  if c = pictureSelector then (0, next.selectPicture)
  else if c = textSelector then (0, next.selectText)
  else if next.asText && narrowsAsText c then (1, .plain)
  else
    let next := next.ignoreText
    if next.bridges && c = joiner then (0, ⟨next.joint, true, next.asPicture, next.asText⟩)
    else if next.bridges && unseenMarks.holds c then (0, next)
    else
      match next.joint with
      | .letter l => (l.join? next.joined c).elim (meetAlone c) fun j => (j.1, .ofLetter j.2)
      | joint => (joinPicture? c joint).elim (meetAlone c) fun j => (j.1, .of j.2)

/-- The columns that a character adds to what follows it, and what the character before it
meets. -/
def meet (c : Char) (next : Following) : Int × Following :=
  if next.asPicture && styledCharacters.holds c then
    (if next.isJoinedPicture then 0 else 2, .of .picture)
  else
    let next := next.ignorePicture
    if 0xa0 < c.toNat then meetAbove c next
    else if c = '\n' then (1, .of .lineFeed)
    else if c = '\r' && next.joint = .lineFeed then (0, .plain)
    else (1, .plain)

/-- The columns of some characters, and what a character before them meets. -/
def measure : List Char → Int × Following
  | [] => (0, .plain)
  | c :: rest =>
    let (columns, next) := measure rest
    let (more, before) := meet c next
    (columns + more, before)

/-- Columns of a line. -/
def columns (line : String) : Nat := (measure line.toList).1.toNat

end TransitForecast.Text
