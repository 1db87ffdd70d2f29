import TransitForecast.Json.Basic
import TransitForecast.Decimal.Real

/-!
# TransitForecast — numbers in JSON

A number without point and exponent is whole as long as it fits 64 bits. Any other is a floating
point number, which is computed rather than looked for: the digits that fit 64 bits are divided or
multiplied by a power of ten in floating point arithmetic. With up to 15 digits and powers up to 22
that is the nearest floating point number; beyond them it may be a neighbour of that.
-/

namespace TransitForecast.Json

open Decimal (spanDigits digitsValue lexExponent? powerOfTen)

/-- The parts of a number as written. -/
structure Numeral where
  negative : Bool
  whole : List Char
  fraction : Option (List Char)
  exponent : Option Int
  deriving Repr

/-- Reads the fraction of a number: nothing, or a point and at least one digit. -/
def lexFraction? (cs : List Char) : Option (Option (List Char) × List Char) :=
  match cs with
  | '.' :: rest =>
    let (ds, after) := spanDigits rest
    if ds.isEmpty then none else some (some ds, after)
  | _ => some (none, cs)

/-- Reads a number. A whole part of several digits does not start with zero. -/
def lexNumber? (cs : List Char) : Option (Numeral × List Char) := do
  let (negative, body) := match cs with
    | '-' :: rest => (true, rest)
    | other => (false, other)
  let (whole, afterWhole) := spanDigits body
  guard (!whole.isEmpty && (whole.length == 1 || whole.head? != some '0'))
  let (fraction, afterFraction) ← lexFraction? afterWhole
  let (exponent, rest) ← lexExponent? afterFraction
  return (⟨negative, whole, fraction, exponent⟩, rest)

/-- Appends digits to a significand until the next one would not fit 64 bits; what is left over comes
second. -/
def gather (significand : Nat) : List Char → Nat × List Char
  | [] => (significand, [])
  | d :: rest =>
    let next := significand * 10 + digitsValue [d]
    if next < 18446744073709551616 then gather next rest else (significand, d :: rest)

/-- Greatest power of ten that is a floating point number. -/
def greatestPower : Int := 308

/-- `x · 10 ^ power` in floating point arithmetic; `none` when it is not finite. Powers below the
least one are divided out in several steps, of which at most `steps`: three make any number that is
no power of ten itself vanish. -/
def scaled? (x : Float) (power : Int) : Nat → Option Float
  | 0 => some 0
  | steps + 1 =>
    if greatestPower < power then (if x == 0 then some x else none)
    else if 0 ≤ power then
      let y := x * powerOfTen power.toNat
      if y.isInf then none else some y
    else if -greatestPower ≤ power then some (x / powerOfTen (-power).toNat)
    else if x == 0 then some x
    else scaled? (x / powerOfTen greatestPower.toNat) (power + greatestPower) steps

/-- A floating point number from its sign, significand and power of ten. -/
def realValue (negative : Bool) (significand : Nat) (power : Int) : Json :=
  match scaled? (UInt64.ofNat significand).toFloat power 4 with
  | some x => .float (if negative then -x else x)
  | none => .unreadable

/-- The value of a number. Minus zero is no whole number, nor is one below the least of 64 bits. -/
def Numeral.value (n : Numeral) : Json :=
  let (significand, beyond) := gather 0 n.whole
  match n.fraction, n.exponent, beyond with
  | none, none, [] =>
    if !n.negative then .int significand
    else if significand ≠ 0 && Decimal.int64.holds (-(significand : Int)) then
      .int (-(significand : Int))
    else realValue true significand 0
  | fraction, exponent, beyond =>
    let places := fraction.getD []
    let (significand, dropped) := gather significand places
    let used : Int := places.length - dropped.length
    realValue n.negative significand (exponent.getD 0 + beyond.length - used)

end TransitForecast.Json
