import TransitForecast.Json.Token

/-!
# TransitForecast — reading JSON

`Json.parse?` reads a text that is one value and nothing else. `Json.document?`
reads it as a document: every part of it must be readable, nesting is bounded,
and of members with one name the last counts.
-/

namespace TransitForecast.Json

mutual

/-- Reads a value from the front of the tokens. `fuel` bounds the number of steps. -/
def parseValue? : Nat → List Token → Option (Json × List Token)
  | 0, _ => none
  | fuel + 1, tokens =>
    match tokens with
    | .scalar value :: rest => some (value, rest)
    | .text (some s) :: rest => some (.string s, rest)
    | .text none :: rest => some (.unreadable, rest)
    | .openBracket :: .closeBracket :: rest => some (.array [], rest)
    | .openBracket :: rest =>
      (parseItems? fuel rest).map fun (items, after) => (.array items, after)
    | .openBrace :: .closeBrace :: rest => some (.object [], rest)
    | .openBrace :: rest =>
      (parseMembers? fuel rest).map fun (members, after) =>
        -- a name that cannot be read spoils the object, though it may still be skipped
        (if members.any (fun m => m.1.isNone) then .unreadable
          else .object (members.map fun m => (m.1.getD "", m.2)), after)
    | _ => none

/-- Reads the items of an array, of which there is at least one, and its closing bracket. -/
def parseItems? : Nat → List Token → Option (List Json × List Token)
  | 0, _ => none
  | fuel + 1, tokens =>
    match parseValue? fuel tokens with
    | some (item, .closeBracket :: rest) => some ([item], rest)
    | some (item, .comma :: rest) =>
      (parseItems? fuel rest).map fun (items, after) => (item :: items, after)
    | _ => none

/-- Reads the members of an object, of which there is at least one, and its closing brace. -/
def parseMembers? : Nat → List Token → Option (List (Option String × Json) × List Token)
  | 0, _ => none
  | fuel + 1, tokens =>
    match tokens with
    | .text name :: .colon :: body =>
      match parseValue? fuel body with
      | some (value, .closeBrace :: rest) => some ([(name, value)], rest)
      | some (value, .comma :: rest) =>
        (parseMembers? fuel rest).map fun (members, after) => ((name, value) :: members, after)
      | _ => none
    | _ => none

end

/-- The value that a text is; `none` when the text is not one value. -/
def parse? (s : String) : Option Json := do
  let tokens ← tokens? s
  match parseValue? (2 * tokens.length + 2) tokens with
  | some (value, []) => some value
  | _ => none

/-- The document that a text is. -/
def document? (s : String) : Option Json := (parse? s).bind (canonical? documentDepth)

end TransitForecast.Json
