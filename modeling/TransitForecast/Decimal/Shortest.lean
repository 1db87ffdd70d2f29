/-!
# TransitForecast — shortest decimals

The shortest decimal that reads back as a given floating point number, and of
the shortest ones the nearest to it. A finite positive number is `m · 2 ^ q`; the
reals that round to it form an interval around it whose ends belong to it when
`m` is even. On the grid of decimals with `n` significant digits only the two
neighbours of the number can lie in the interval first, so the search tries
these two for `n = 1, 2, …, 17`, in exact arithmetic.
-/

namespace TransitForecast.Decimal

/-- The number `digits · 10 ^ exponent`. -/
structure Scaled where
  digits : Nat
  exponent : Int
  deriving DecidableEq, Repr

/-- A positive rational as numerator and denominator, compared by cross multiplication. -/
structure Ratio where
  num : Nat
  den : Nat

namespace Ratio

/-- Whether `a` is below `b`. -/
def lt (a b : Ratio) : Bool := a.num * b.den < b.num * a.den

/-- Whether `a` is at most `b`. -/
def le (a b : Ratio) : Bool := a.num * b.den ≤ b.num * a.den

/-- The rational `n · 2 ^ q`. -/
def ofDyadic (n : Nat) (q : Int) : Ratio :=
  if 0 ≤ q then ⟨n * Nat.pow 2 q.toNat, 1⟩ else ⟨n, Nat.pow 2 (-q).toNat⟩

/-- The rational `n · 10 ^ e`. -/
def ofDecimal (n : Nat) (e : Int) : Ratio :=
  if 0 ≤ e then ⟨n * Nat.pow 10 e.toNat, 1⟩ else ⟨n, Nat.pow 10 (-e).toNat⟩

/-- The greatest `k` below the bound with `10 ^ k · a ≤ b`, counted up from zero. -/
def tensWithin (a b : Nat) : Nat → Nat
  | 0 => 0
  | bound + 1 => if 10 * a ≤ b then tensWithin (10 * a) b bound + 1 else 0

/-- The power of ten of the leading digit: `10 ^ k ≤ a < 10 ^ (k + 1)`. -/
def magnitude (a : Ratio) : Int :=
  if a.den ≤ a.num then (tensWithin a.den a.num 400 : Nat)
  else -(tensWithin a.num (a.den - 1) 400 : Nat) - 1

/-- The whole part of `a / 10 ^ e`. -/
def gridFloor (a : Ratio) (e : Int) : Nat :=
  if 0 ≤ e then a.num / (a.den * Nat.pow 10 e.toNat) else a.num * Nat.pow 10 (-e).toNat / a.den

end Ratio

/-- The reals that round to a floating point number, with the number itself. -/
structure Rounding where
  value : Ratio
  low : Ratio
  high : Ratio
  endsIncluded : Bool

namespace Rounding

/-- Whether a decimal reads back as the number. -/
def holds (r : Rounding) (x : Ratio) : Bool :=
  if r.endsIncluded then r.low.le x && x.le r.high else r.low.lt x && x.lt r.high

/-- The interval of `m · 2 ^ q`; below a power of two the neighbour is half as far. -/
def ofDyadic (m : Nat) (q : Int) (lowerIsNear : Bool) : Rounding :=
  { value := .ofDyadic m q
    low := if lowerIsNear then .ofDyadic (4 * m - 1) (q - 2) else .ofDyadic (2 * m - 1) (q - 1)
    high := .ofDyadic (2 * m + 1) (q - 1)
    endsIncluded := m % 2 == 0 }

/-- The better of the value's two neighbours on the grid of multiples of `10 ^ e`. -/
def nearestOnGrid? (r : Rounding) (e : Int) : Option Scaled :=
  let below := r.value.gridFloor e
  let above := below + 1
  let lowHit := r.holds (.ofDecimal below e)
  let highHit := r.holds (.ofDecimal above e)
  -- twice the value against the sum of its neighbours tells which is nearer
  let middle := Ratio.ofDecimal (below + above) e
  let doubled : Ratio := ⟨2 * r.value.num, r.value.den⟩
  if lowHit && highHit then
    if doubled.lt middle || (doubled.le middle && below % 2 == 0) then some ⟨below, e⟩
    else some ⟨above, e⟩
  else if lowHit then some ⟨below, e⟩
  else if highHit then some ⟨above, e⟩
  else none

/-- The first grid with a hit, from `n` significant digits on. -/
def search (r : Rounding) (top : Int) (n : Nat) : Nat → Scaled
  | 0 => ⟨r.value.gridFloor (top - n), top - n⟩
  | tries + 1 =>
    match r.nearestOnGrid? (top - n) with
    | some hit => hit
    | none => search r top (n + 1) tries

/-- The shortest decimal of the interval. -/
def shortest (r : Rounding) : Scaled := r.search r.value.magnitude 0 17

end Rounding

/-- Moves trailing zeros of the digits into the exponent. -/
def Scaled.trim (x : Scaled) : Nat → Scaled
  | 0 => x
  | bound + 1 =>
    if x.digits ≠ 0 ∧ x.digits % 10 = 0 then
      Scaled.trim ⟨x.digits / 10, x.exponent + 1⟩ bound
    else x

/-- A number to be written, by what its text shows of it. -/
inductive Shape
  | zero (negative : Bool)
  | finite (negative : Bool) (magnitude : Scaled)
  | infinite (negative : Bool)
  | notNumber
  deriving DecidableEq, Repr

/-- The shape of the number with the given binary64 bits. -/
def Shape.ofBits (bits : Nat) : Shape :=
  let negative := bits.testBit 63
  let biased : Nat := bits / Nat.pow 2 52 % 2048
  let fraction : Nat := bits % Nat.pow 2 52
  if biased = 2047 then (if fraction = 0 then .infinite negative else .notNumber)
  else if biased = 0 then
    if fraction = 0 then .zero negative
    else .finite negative ((Rounding.ofDyadic fraction (-1074) false).shortest.trim 20)
  else
    let near := fraction == 0 && 1 < biased
    .finite negative
      ((Rounding.ofDyadic (Nat.pow 2 52 + fraction) (biased - 1075) near).shortest.trim 20)

/-- The shape of a floating point number. -/
def Shape.ofFloat (x : Float) : Shape := .ofBits x.toBits.toNat

end TransitForecast.Decimal
