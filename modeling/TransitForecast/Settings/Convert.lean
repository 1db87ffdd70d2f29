import TransitForecast.Decimal.Layout
import TransitForecast.Decimal.Real
import TransitForecast.Settings.Fields

/-!
# TransitForecast — settings of another kind

A setting may be written as a scalar of another kind than its own: a number as a
text, a switch as a number, and so on. Each kind has a rule for every other.
-/

namespace TransitForecast.ScalarReader

open Json (Reader FieldReader)
open Decimal (Bounds int64 nat64)

/-- Words for one and for zero. Case does not matter. -/
def switchWord? (word : String) : Option Bool :=
  if ["true", "on", "yes"].contains word.toLower then some true
  else if ["false", "off", "no"].contains word.toLower then some false
  else none

/-- A text: a number is written out, and a switch is a word. -/
def convertText : Reader String
  | .string s => some s
  | .int n => some (toString n)
  | .float x => some (Decimal.Layout.plain.write x)
  | .bool b => some (if b then "true" else "false")
  | _ => none

/-- A switch: a number is on unless it is zero, and a text is a word or a digit. -/
def convertFlag : Reader Bool
  | .bool b => some b
  | .int n => some (n != 0)
  | .float x => some (x != 0)
  | .string s =>
    if s = "1" then some true else if s = "0" then some false else switchWord? s
  | _ => none

/-- A whole number: a fractional one is rounded, half away from zero, and moved into the range of
the widest whole numbers; a switch is one or zero. -/
def convertWhole (widest : Bounds) : Reader Int
  | .int n => widest.check n
  | .float x => some (if widest.lo = 0 then x.round.toUInt64.toNat else x.round.toInt64.toInt)
  | .bool b => some (if b then 1 else 0)
  | .string s =>
    match switchWord? s with
    | some b => some (if b then 1 else 0)
    | none => widest.read? s
  | _ => none

/-- A number. -/
def convertReal : Reader Float
  | .float x => some x
  | .int n => some (Float.ofInt n)
  | .bool b => some (if b then 1 else 0)
  | .string s =>
    match switchWord? s with
    | some b => some (if b then 1 else 0)
    | none => Decimal.real? s
  | _ => none

/-- Reads scalars of any kind. -/
def converting : ScalarReader where
  text := convertText
  flag := convertFlag
  int := fun bounds j => (convertWhole int64 j).bind bounds.check
  nat := fun bounds j => ((convertWhole nat64 j).bind bounds.check).map Int.toNat
  real := convertReal
  subjects := FieldReader.leading (Wire.subjectFields convertText)

end TransitForecast.ScalarReader
