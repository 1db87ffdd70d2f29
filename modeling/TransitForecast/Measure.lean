/-!
# TransitForecast — arithmetic of travel times

Travel times are computed in floating point, but the rules for sharing a time
among stop pairs and for carrying fractions of a second along are rules of
arithmetic. They are written once over any numbers with the operations of
`Measure`, so that they can be run on floating point numbers and be reasoned about on rationals.
-/

namespace TransitForecast

/-- Numbers that travel times are computed in. -/
class Measure (α : Type) extends Add α, Sub α, Mul α, Div α, LT α where
  /-- The number equal, or nearest, to a whole one. -/
  ofInt : Int → α
  /-- One millionth, added before a fraction is cut off. -/
  tolerance : α
  /-- The whole part of a number; nothing for a negative one or for what is no number. -/
  wholePart : α → Nat
  /-- Comparison. -/
  decLt : DecidableLT α

namespace Measure

variable {α : Type} [Measure α]

instance : DecidableLT α := decLt

/-- Zero. -/
def zero : α := ofInt 0

/-- One. -/
def one : α := ofInt 1

/-- The number if it is positive, else zero. -/
def positivePart (x : α) : α := if zero < x then x else zero

/-- The number moved to the nearer end of the interval from zero to one when it lies outside. -/
def clampUnit (x : α) : α := if x < zero then zero else if one < x then one else x

/-- The sum of a list, from the left. -/
def sum (xs : List α) : α := xs.foldl (· + ·) zero

end Measure

instance : Measure Float where
  ofInt := Float.ofInt
  tolerance := 1e-6
  wholePart x := x.toUInt64.toNat
  decLt := fun a b => Float.decLt a b

instance : Measure Rat where
  ofInt n := (n : Rat)
  tolerance := 1 / 1000000
  wholePart x := x.floor.toNat
  decLt := fun a b => inferInstanceAs (Decidable (a < b))

end TransitForecast
