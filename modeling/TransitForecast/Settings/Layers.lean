import TransitForecast.Json.Parser
import TransitForecast.Settings.Convert
import TransitForecast.Text.Split

/-!
# TransitForecast — layers of settings

Settings come from a file, if there is one, and from the variables of the
environment, which win. A layer is an object; laying one over another merges
objects member by member and replaces everything else. Names do not depend on
case, and a name written like a path, `a.b[0]`, leads into objects and lists.
-/

namespace TransitForecast.Settings

/-- What the names of variables that are settings start with, in lower case. -/
def variableStem : String := "aggregator_"

/-- The variable that names the settings file. -/
def fileVariable : String := "AGGREGATOR_CONFIG_FILE"

/-- The variable that names the host. -/
def hostVariable : String := "HOSTNAME"

/-- The settings that a variable may list with commas between. -/
def listed : List String := ["route_allow_list", "holidays"]

-- ---------------------------------------------------------------------------
-- Names
-- ---------------------------------------------------------------------------

/-- Folds the case of a character. The names of all settings are ASCII, and of the letters beyond
ASCII only the Kelvin sign has an ASCII letter as its small form. -/
def foldChar (c : Char) : Char := if c.toNat = 0x212a then 'k' else c.toLower

/-- Folds the case of a name. -/
def foldName (name : String) : String := String.ofList (name.toList.map foldChar)

/-- A step of a path into a value. -/
inductive PathStep
  /-- Into the member of an object. -/
  | member (name : String)
  /-- To an item of a list; a negative number counts from the end. -/
  | item (index : Int)
  deriving DecidableEq, Repr

/-- Characters of the names in a path. -/
def isPathChar (c : Char) : Bool := c.isAlphanum || c = ' ' || c = '_' || c = '-'

/-- Blanks around the number of an item. -/
def isPathBlank (c : Char) : Bool := c = ' ' || c = '\t'

/-- Reads the number of an item and the bracket behind it. -/
def readIndex? (cs : List Char) : Option (Int × List Char) :=
  let body := cs.dropWhile isPathBlank
  let digits := match body with
    | '-' :: rest => rest
    | other => other
  let number := digits.takeWhile Char.isDigit
  let minus := body.take (body.length - digits.length)
  match (digits.drop number.length).dropWhile isPathBlank with
  | ']' :: rest =>
    if number.isEmpty then none
    else (Decimal.int64.read? (String.ofList (minus ++ number))).map fun n => (n, rest)
  | _ => none

/-- Reads the name of a member, which has at least one character. -/
def readMember? (cs : List Char) : Option (String × List Char) :=
  let name := cs.takeWhile isPathChar
  if name.isEmpty then none else some (String.ofList name, cs.drop name.length)

/-- Reads the steps of a path behind its first one: members after points, items in brackets. `fuel`
bounds their number; the length of the text is enough. -/
def readSteps? : Nat → List Char → Option (List PathStep)
  | _, [] => some []
  | 0, _ => none
  | fuel + 1, '.' :: rest => do
    let (name, after) ← readMember? rest
    return .member name :: (← readSteps? fuel after)
  | fuel + 1, '[' :: rest => do
    let (index, after) ← readIndex? rest
    return .item index :: (← readSteps? fuel after)
  | _ + 1, _ => none

/-- The path that a name stands for: a member and further steps, or the member of the whole name when
the name is not written like a path. -/
def pathOf (name : String) : List PathStep :=
  let cs := name.toList
  let read : Option (List PathStep) := do
    let (first, after) ← readMember? cs
    return .member first :: (← readSteps? cs.length after)
  read.getD [.member name]

-- ---------------------------------------------------------------------------
-- Laying values over a value
-- ---------------------------------------------------------------------------

/-- The members of an object; another value has none. -/
def membersOf : Json → List (String × Json)
  | .object members => members
  | _ => []

/-- The items of a list; another value has none. -/
def itemsOf : Json → List Json
  | .array items => items
  | _ => []

mutual

/-- Lays a value over what is there, if anything: an object is merged member by member, and anything
else takes the place. An object without members leaves what is there. -/
def layOver (under : Option Json) : Json → Json
  | .object members => layMembers (under.getD (.object [])) members
  | other => other

/-- Lays members over an object, or over an empty one in place of another value. -/
def layMembers (under : Json) : List (String × Json) → Json
  | [] => under
  | (name, value) :: rest =>
    let key := foldName name
    let laid := layOver (under.member? key) value
    layMembers (.object (Json.insertMember key laid (membersOf under))) rest

end

/-- The place of an item in a list of a length; `none` for a place before its start. -/
def place? (index : Int) (length : Nat) : Option Nat :=
  if 0 ≤ index then some index.toNat
  else if index.natAbs ≤ length then some (length - index.natAbs) else none

/-- Puts an item into a list, which is filled up with `null` if it is too short. -/
def putItem (items : List Json) (place : Nat) (item : Json) : List Json :=
  (items ++ List.replicate (place + 1 - items.length) Json.null).set place item

/-- Lays a value over what is at the end of a path. What stands in the way of a step makes room for
an object or a list. The result is `none` when a step leads before the start of a list. -/
def layAt (under value : Json) : List PathStep → Option Json
  | [] => some value
  | [.member name] => some (layMembers (.object (membersOf under)) [(name, value)])
  | .member name :: rest =>
    let key := foldName name
    (layAt ((under.member? key).getD .null) value rest).map fun laid =>
      .object (Json.insertMember key laid (membersOf under))
  | .item index :: rest => do
    let items := itemsOf under
    let place ← place? index items.length
    let laid ← layAt (items[place]?.getD .null) value rest
    return .array (putItem items place laid)

/-- Lays the entries of a layer over an object. -/
def layEntries (under : Json) (entries : List (String × Json)) : Option Json :=
  entries.foldlM (fun object e => layAt object e.2 (pathOf e.1)) under

-- ---------------------------------------------------------------------------
-- The two kinds of layers
-- ---------------------------------------------------------------------------

mutual

/-- A value of a settings file: a whole number beyond 64 bits with a sign is a number like any
other. -/
def fileValue : Json → Json
  | .int n => if Decimal.int64.holds n then .int n else .float (Float.ofInt n)
  | .array items => .array (fileItems items)
  | .object members => .object (fileMembers members)
  | other => other

/-- The items of a list in a settings file. -/
def fileItems : List Json → List Json
  | [] => []
  | item :: rest => fileValue item :: fileItems rest

/-- The members of an object in a settings file. -/
def fileMembers : List (String × Json) → List (String × Json)
  | [] => []
  | (name, value) :: rest => (name, fileValue value) :: fileMembers rest

end

/-- The entries of a settings file, which must be an object. -/
def fileEntries? (text : String) : Option (List (String × Json)) :=
  match Json.document? text with
  | some (.object members) => some (fileMembers members)
  | _ => none

/-- The value of a variable: a truth value, a whole number, a number, a list where the setting is
one, else a text. -/
def variableValue (name value : String) : Json :=
  if value.toLower = "true" then .bool true
  else if value.toLower = "false" then .bool false
  else
    match Decimal.int64.read? value, Decimal.real? value with
    | some n, _ => .int n
    | none, some x => .float x
    | none, none =>
      if listed.contains name then
        .array ((splitOnElement ',' value.toList).map fun item => .string (String.ofList item))
      else .string value

/-- The rest of a list after a given start. -/
def afterStem? : List Char → List Char → Option (List Char)
  | [], rest => some rest
  | c :: stem, d :: rest => if c = d then afterStem? stem rest else none
  | _ :: _, [] => none

/-- Two underscores lead into an object, like a point. -/
def pointed : List Char → List Char
  | '_' :: '_' :: rest => '.' :: pointed rest
  | c :: rest => c :: pointed rest
  | [] => []

/-- The entry of a variable that is a setting. -/
def variableEntry? (name value : String) : Option (String × Json) :=
  (afterStem? variableStem.toList (foldName name).toList).map fun rest =>
    let setting := String.ofList (pointed rest)
    (setting, variableValue setting value)

/-- The value of a variable. -/
def environmentValue? (environment : List (String × String)) (name : String) : Option String :=
  (environment.find? fun v => v.1 = name).map Prod.snd

/-- The object of all layers; `none` when a name leads before the start of a list. -/
def layered (file : List (String × Json)) (environment : List (String × String)) : Option Json := do
  layEntries (← layEntries (.object []) file)
    (environment.filterMap fun v => variableEntry? v.1 v.2)

end TransitForecast.Settings
