import TransitForecast.Json.Basic
import TransitForecast.Decimal.Layout

/-!
# TransitForecast — writing JSON

The compact text of a value, and the indented one with two spaces a level. Members
are written in the order they have.
-/

namespace TransitForecast.Json

/-- One character of a string. Controls without a short name get four hexadecimal digits. -/
def escapedChar (c : Char) : List Char :=
  if c = '"' then ['\\', '"']
  else if c = '\\' then ['\\', '\\']
  else if c = '\n' then ['\\', 'n']
  else if c = '\r' then ['\\', 'r']
  else if c = '\t' then ['\\', 't']
  else if c = Char.ofNat 8 then ['\\', 'b']
  else if c = Char.ofNat 12 then ['\\', 'f']
  else if c.toNat < 0x20 then
    ['\\', 'u', '0', '0', Nat.digitChar (c.toNat / 16), Nat.digitChar (c.toNat % 16)]
  else [c]

/-- A string between quotes. -/
def writeString (s : String) : String :=
  String.ofList ('"' :: (s.toList.flatMap escapedChar ++ ['"']))

/-- The text of a scalar; of a list or object, `null`. -/
def writeScalar : Json → String
  | .bool b => if b then "true" else "false"
  | .int n => toString n
  | .float x => Decimal.Layout.json.write x
  | .string s => writeString s
  | _ => "null"

mutual

/-- The text of a value without white space. -/
def compact : Json → String
  | .array items => "[" ++ compactItems items ++ "]"
  | .object members => "\x7b" ++ compactMembers members ++ "\x7d"
  | scalar => writeScalar scalar

/-- Items with commas between them. -/
def compactItems : List Json → String
  | [] => ""
  | [item] => compact item
  | item :: rest => compact item ++ "," ++ compactItems rest

/-- Members with commas between them. -/
def compactMembers : List (String × Json) → String
  | [] => ""
  | [(name, value)] => writeString name ++ ":" ++ compact value
  | (name, value) :: rest =>
    writeString name ++ ":" ++ compact value ++ "," ++ compactMembers rest

end

/-- A line break and the indentation of a level. -/
def lineAt (level : Nat) : String := "\n" ++ String.ofList (List.replicate (2 * level) ' ')

mutual

/-- The text of a value over several lines. -/
def indented (level : Nat) : Json → String
  | .array [] => "[]"
  | .array items => "[" ++ indentedItems (level + 1) items ++ lineAt level ++ "]"
  | .object [] => "\x7b\x7d"
  | .object members => "\x7b" ++ indentedMembers (level + 1) members ++ lineAt level ++ "\x7d"
  | scalar => writeScalar scalar

/-- Items, each on lines of its own. -/
def indentedItems (level : Nat) : List Json → String
  | [] => ""
  | [item] => lineAt level ++ indented level item
  | item :: rest => lineAt level ++ indented level item ++ "," ++ indentedItems level rest

/-- Members, each on lines of its own. -/
def indentedMembers (level : Nat) : List (String × Json) → String
  | [] => ""
  | [(name, value)] => lineAt level ++ writeString name ++ ": " ++ indented level value
  | (name, value) :: rest =>
    lineAt level ++ writeString name ++ ": " ++ indented level value ++ "," ++
      indentedMembers level rest

end

/-- The text of a value over several lines. -/
def pretty (value : Json) : String := indented 0 value

end TransitForecast.Json
