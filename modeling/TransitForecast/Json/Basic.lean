/-!
# TransitForecast — JSON values

The values that messages, snapshots and settings are made of. Members of an
object keep the order in which they were written, and a name may occur twice:
what that means is for the reader to decide.
-/

namespace TransitForecast

/-- A JSON value. -/
inductive Json
  | null
  | bool (b : Bool)
  /-- A whole number between `-2 ^ 63` and `2 ^ 64 - 1`. -/
  | int (n : Int)
  | float (x : Float)
  | string (s : String)
  | array (items : List Json)
  | object (members : List (String × Json))
  /-- Well-formed text that stands for no value: a number beyond the floating point range, or half
  of a surrogate pair. It may be skipped but not read. -/
  | unreadable
  deriving Inhabited

namespace Json

/-- The values that an object gives to a name, in order. -/
def valuesOf (name : String) (members : List (String × Json)) : List Json :=
  members.filterMap fun m => if m.1 = name then some m.2 else none

/-- The last value that an object gives to a name. -/
def member? (name : String) : Json → Option Json
  | .object members => (valuesOf name members).getLast?
  | _ => none

/-- Puts a member into a list sorted by name, in place of one of the same name. -/
def insertMember (name : String) (value : Json) : List (String × Json) → List (String × Json)
  | [] => [(name, value)]
  | (n, v) :: rest =>
    if n = name then (name, value) :: rest
    else if name < n then (name, value) :: (n, v) :: rest
    else (n, v) :: insertMember name value rest

mutual

/-- The document that a value is: every part readable, nesting at most `depth`, members sorted by
name and the last of equal names kept. -/
def canonical? (depth : Nat) : Json → Option Json
  | .unreadable => none
  | .array items =>
    match depth with
    | 0 => none
    | d + 1 => (canonicalItems? d items).map .array
  | .object members =>
    match depth with
    | 0 => none
    | d + 1 => (canonicalMembers? d [] members).map .object
  | other => some other

/-- The documents of the items of an array. -/
def canonicalItems? (depth : Nat) : List Json → Option (List Json)
  | [] => some []
  | item :: rest =>
    match canonical? depth item, canonicalItems? depth rest with
    | some i, some r => some (i :: r)
    | _, _ => none

/-- The documents of the members of an object, put into what is sorted so far. -/
def canonicalMembers? (depth : Nat) (sorted : List (String × Json)) :
    List (String × Json) → Option (List (String × Json))
  | [] => some sorted
  | (name, value) :: rest =>
    match canonical? depth value with
    | some v => canonicalMembers? depth (insertMember name v sorted) rest
    | none => none

end

/-- Deepest nesting of a document. -/
def documentDepth : Nat := 127

end Json

end TransitForecast
