import TransitForecast.Json.Basic
import TransitForecast.Decimal.Integer

/-!
# TransitForecast — records in JSON

A record is written as an object, and may be read from an object or from an array of its fields
in order. Of an object, members that the record does not have are skipped and a
field must not be given twice. A field is required, or has a default that stands for a missing one,
or is optional. In an array only fields with a default may be missing, and only at the end; there
must be no items left over.
-/

namespace TransitForecast.Json

/-- How a value of a type is read. -/
abbrev Reader (α : Type) := Json → Option α

namespace Reader

/-- A string. -/
def string : Reader String
  | .string s => some s
  | _ => none

/-- A truth value. -/
def bool : Reader Bool
  | .bool b => some b
  | _ => none

/-- A whole number of a range. -/
def int (bounds : Decimal.Bounds) : Reader Int
  | .int n => bounds.check n
  | _ => none

/-- A whole number of a range without negative numbers. -/
def nat (bounds : Decimal.Bounds) : Reader Nat
  | .int n => (bounds.check n).map Int.toNat
  | _ => none

/-- A number; a whole one is converted. -/
def float : Reader Float
  | .int n => some (Float.ofInt n)
  | .float x => some x
  | _ => none

/-- A list of values. -/
def list {α : Type} (item : Reader α) : Reader (List α)
  | .array items => items.mapM item
  | _ => none

/-- An array of two values. -/
def pair {α β : Type} (first : Reader α) (second : Reader β) : Reader (α × β)
  | .array [a, b] =>
    match first a, second b with
    | some x, some y => some (x, y)
    | _, _ => none
  | _ => none

/-- An object whose members are strings. -/
def texts : Reader (List (String × String))
  | .object members => members.mapM fun m => (string m.2).map fun s => (m.1, s)
  | _ => none

/-- A value or `null`. -/
def option {α : Type} (value : Reader α) : Reader (Option α)
  | .null => some none
  | other => (value other).map some

/-- One of several names, as a string or as an object whose only member has that name and no
value. -/
def name {α : Type} (named : String → Option α) : Reader α
  | .string s => named s
  | .object [(s, .null)] => named s
  | _ => none

end Reader

/-- The fields of a record, as far as they have been read. -/
inductive Fields
  | members (all : List (String × Json))
  | items (left : List Json)

/-- Reads a record field by field. -/
abbrev FieldReader (α : Type) := StateT Fields Option α

namespace FieldReader

/-- The next field: its value, or nothing when it is missing. -/
def next (name : String) : FieldReader (Option Json) := fun fields =>
  match fields with
  | .members all =>
    match valuesOf name all with
    | [] => some (none, fields)
    | [value] => some (some value, fields)
    | _ => none
  | .items [] => some (none, fields)
  | .items (value :: left) => some (some value, .items left)

/-- A field that must be there. -/
def required {α : Type} (name : String) (value : Reader α) : FieldReader α := do
  match ← next name with
  | some found => value found
  | none => failure

/-- A field for which a default stands in. -/
def withDefault {α : Type} (name : String) (value : Reader α) (default : α) : FieldReader α := do
  match ← next name with
  | some found => value found
  | none => return default

/-- A field that may be missing from an object or `null`; an array must have it. -/
def optional {α : Type} (name : String) (value : Reader α) : FieldReader (Option α) := fun fields =>
  match fields with
  | .items [] => none
  | _ => (withDefault name (Reader.option value) none) fields

/-- An optional field that an array may leave out as well. -/
def optionalTail {α : Type} (name : String) (value : Reader α) : FieldReader (Option α) :=
  withDefault name (Reader.option value) none

/-- Reads the whole record. -/
def record {α : Type} (fields : FieldReader α) : Reader α
  | .object members => (fields (.members members)).map (·.1)
  | .array items =>
    match fields (.items items) with
    | some (value, .items []) => some value
    | _ => none
  | _ => none

/-- Reads the record; items left over are skipped. -/
def leading {α : Type} (fields : FieldReader α) : Reader α
  | .object members => (fields (.members members)).map (·.1)
  | .array items => (fields (.items items)).map (·.1)
  | _ => none

end FieldReader

/-- A member that is written only when there is a value. -/
def ifPresent (name : String) : Option Json → List (String × Json)
  | some value => [(name, value)]
  | none => []

/-- A value or `null`. -/
def ofOption {α : Type} (write : α → Json) : Option α → Json
  | some value => write value
  | none => .null

end TransitForecast.Json
