import TransitForecast.Json.Number
import TransitForecast.Text.Percent

/-!
# TransitForecast — JSON tokens

From characters to tokens. A token that is well formed but stands for no value (see
`Json.unreadable`) is a token all the same, so that a reader can skip it.
-/

namespace TransitForecast.Json

/-- The tokens of a JSON text. -/
inductive Token
  | openBrace
  | closeBrace
  | openBracket
  | closeBracket
  | comma
  | colon
  /-- A literal or a number. -/
  | scalar (value : Json)
  /-- A string; `none` when an escape names half of a surrogate pair. -/
  | text (s : Option String)
  deriving Inhabited

/-- White space between tokens. -/
def isSpace (c : Char) : Bool := c = ' ' || c = '\n' || c = '\t' || c = '\r'

-- ---------------------------------------------------------------------------
-- Strings
-- ---------------------------------------------------------------------------

/-- The value of four hexadecimal digits. -/
def hex4? (a b c d : Char) : Option Nat := do
  let a ← Text.hexDigit? a
  let b ← Text.hexDigit? b
  let c ← Text.hexDigit? c
  let d ← Text.hexDigit? d
  return ((a * 16 + b) * 16 + c) * 16 + d

/-- The character that a short escape stands for. -/
def shortEscape? : Char → Option Char
  | '"' => some '"'
  | '\\' => some '\\'
  | '/' => some '/'
  | 'b' => some (Char.ofNat 8)
  | 'f' => some (Char.ofNat 12)
  | 'n' => some '\n'
  | 'r' => some '\r'
  | 't' => some '\t'
  | _ => none

/-- Whether a code unit is the first half of a surrogate pair. -/
def isHighSurrogate (u : Nat) : Bool := 0xd800 ≤ u && u < 0xdc00

/-- Whether a code unit is the second half of a surrogate pair. -/
def isLowSurrogate (u : Nat) : Bool := 0xdc00 ≤ u && u < 0xe000

/-- The pieces of a string: characters, and code units named by an escape. -/
inductive Piece
  | char (c : Char)
  | unit (u : Nat)

/-- Reads a string after its opening quote, up to its closing quote. -/
def lexPieces? : List Char → Option (List Piece × List Char)
  | [] => none
  | '"' :: rest => some ([], rest)
  | '\\' :: 'u' :: a :: b :: c :: d :: rest =>
    match hex4? a b c d, lexPieces? rest with
    | some u, some (pieces, after) => some (.unit u :: pieces, after)
    | _, _ => none
  | '\\' :: e :: rest =>
    match shortEscape? e, lexPieces? rest with
    | some c, some (pieces, after) => some (.char c :: pieces, after)
    | _, _ => none
  | c :: rest =>
    if c.toNat < 0x20 ∨ c = '\\' then none
    else match lexPieces? rest with
      | some (pieces, after) => some (.char c :: pieces, after)
      | none => none

/-- The text that pieces spell; `none` when half of a surrogate pair stands alone. -/
def spell? : List Piece → Option (List Char)
  | [] => some []
  | .char c :: rest => (spell? rest).map (c :: ·)
  | .unit high :: .unit low :: rest =>
    if isHighSurrogate high then
      if isLowSurrogate low then
        (spell? rest).map (Char.ofNat (0x10000 + (high - 0xd800) * 0x400 + (low - 0xdc00)) :: ·)
      else none
    else if isLowSurrogate high then none
    else (spell? (.unit low :: rest)).map (Char.ofNat high :: ·)
  | .unit u :: rest =>
    if isHighSurrogate u || isLowSurrogate u then none
    else (spell? rest).map (Char.ofNat u :: ·)

-- ---------------------------------------------------------------------------
-- Tokens
-- ---------------------------------------------------------------------------

/-- What follows a word at the start of the text. -/
def afterWord? : List Char → List Char → Option (List Char)
  | [], rest => some rest
  | w :: word, c :: rest => if w = c then afterWord? word rest else none
  | _ :: _, [] => none

/-- Reads the token that starts at a character that is no space. -/
def lexToken? (c : Char) (rest : List Char) : Option (Token × List Char) :=
  match c with
  | '\x7b' => some (.openBrace, rest)
  | '\x7d' => some (.closeBrace, rest)
  | '[' => some (.openBracket, rest)
  | ']' => some (.closeBracket, rest)
  | ',' => some (.comma, rest)
  | ':' => some (.colon, rest)
  | '"' => (lexPieces? rest).map fun (pieces, after) =>
      (.text ((spell? pieces).map String.ofList), after)
  | 'n' => (afterWord? "ull".toList rest).map fun after => (.scalar .null, after)
  | 't' => (afterWord? "rue".toList rest).map fun after => (.scalar (.bool true), after)
  | 'f' => (afterWord? "alse".toList rest).map fun after => (.scalar (.bool false), after)
  | _ => (lexNumber? (c :: rest)).map fun (n, after) => (.scalar n.value, after)

/-- The tokens of a text. `fuel` bounds their number; the length of the text is enough. -/
def tokensFrom? : Nat → List Char → Option (List Token)
  | 0, cs => if cs.all isSpace then some [] else none
  | fuel + 1, cs =>
    match cs.dropWhile isSpace with
    | [] => some []
    | c :: rest =>
      match lexToken? c rest with
      | none => none
      | some (token, after) => (tokensFrom? fuel after).map (token :: ·)

/-- The tokens of a text. -/
def tokens? (s : String) : Option (List Token) :=
  let cs := s.toList
  tokensFrom? cs.length cs

end TransitForecast.Json
