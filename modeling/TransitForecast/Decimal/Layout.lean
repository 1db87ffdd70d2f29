import TransitForecast.Decimal.Shortest

/-!
# TransitForecast — decimal texts

Where a decimal number gets its point, its zeros and its exponent. Two layouts
are in use: the plain one of messages and the one of JSON.
-/

namespace TransitForecast.Decimal

/-- The decisions that a text of a number follows. -/
structure Layout where
  /-- Positional notation starts at this power of ten of the leading digit … -/
  fewest : Option Int
  /-- … and ends at this one; `none` is no limit. -/
  most : Option Int
  /-- What follows a whole number. -/
  wholeMark : String
  /-- The texts of what is no number and of the infinite. -/
  notNumber : String
  infinite : String

/-- Messages show a number in full: no exponent, and no point after a whole number. -/
def Layout.plain : Layout := ⟨none, none, "", "NaN", "inf"⟩

/-- JSON shows `1.0`, is positional from `1e-5` to below `1e16`, and has `null` for the rest. -/
def Layout.json : Layout := ⟨some (-5), some 15, ".0", "null", "null"⟩

/-- The digits of a natural number. -/
def digitsOf (n : Nat) : List Char := Nat.toDigits 10 n

/-- Positional text of `digits · 10 ^ exponent`. -/
def positional (mark : String) (x : Scaled) : String :=
  let ds := digitsOf x.digits
  if 0 ≤ x.exponent then
    String.ofList (ds ++ List.replicate x.exponent.toNat '0') ++ mark
  else
    let places := (-x.exponent).toNat
    if places < ds.length then
      let whole := ds.length - places
      String.ofList (ds.take whole ++ '.' :: ds.drop whole)
    else
      String.ofList ('0' :: '.' :: (List.replicate (places - ds.length) '0' ++ ds))

/-- Text with an exponent: one digit before the point, and a sign before the exponent. -/
def scientific (x : Scaled) : String :=
  let ds := digitsOf x.digits
  let power : Int := x.exponent + ds.length - 1
  let mantissa := match ds with
    | [] => []
    | [d] => [d]
    | d :: rest => d :: '.' :: rest
  String.ofList mantissa ++ (if 0 ≤ power then "e+" else "e") ++ toString power

namespace Layout

/-- Whether the layout writes a number positionally whose leading digit has this power of ten. -/
def isPositional (l : Layout) (power : Int) : Bool :=
  (match l.fewest with | some p => decide (p ≤ power) | none => true) &&
    (match l.most with | some p => decide (power ≤ p) | none => true)

/-- The text of a magnitude. -/
def magnitude (l : Layout) (x : Scaled) : String :=
  if l.isPositional (x.exponent + (digitsOf x.digits).length - 1) then positional l.wholeMark x
  else scientific x

/-- The text of a shape. -/
def shape (l : Layout) : Shape → String
  | .zero negative => (if negative then "-0" else "0") ++ l.wholeMark
  | .finite negative x => (if negative then "-" else "") ++ l.magnitude x
  | .infinite negative =>
    if l.infinite = "null" then "null" else (if negative then "-" else "") ++ l.infinite
  | .notNumber => l.notNumber

/-- The text of a floating point number. -/
def write (l : Layout) (x : Float) : String := l.shape (.ofFloat x)

end Layout

end TransitForecast.Decimal
