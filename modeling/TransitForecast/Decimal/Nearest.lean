import TransitForecast.Decimal.Shortest

/-!
# TransitForecast — the nearest floating point number

Rounding a rational to binary64: of the neighbouring floating point numbers the
nearer one, of two equally near ones that with the even significand.
-/

namespace TransitForecast.Decimal

namespace Ratio

/-- The quotient rounded to a whole number, halves to even. -/
def roundHalfEven (a : Ratio) : Nat :=
  let whole := a.num / a.den
  let twice := 2 * (a.num % a.den)
  if twice > a.den || twice = a.den && whole % 2 = 1 then whole + 1 else whole

/-- The power of two of the leading binary digit: `2 ^ k ≤ a < 2 ^ (k + 1)`. -/
def binaryMagnitude (a : Ratio) : Int :=
  let guess : Int := (Nat.log2 a.num : Int) - Nat.log2 a.den
  if (ofDyadic 1 guess).le a then guess else guess - 1

/-- The rational times `2 ^ q`. -/
def scale (a : Ratio) (q : Int) : Ratio :=
  ⟨a.num * Nat.pow 2 q.toNat, a.den * Nat.pow 2 (-q).toNat⟩

/-- The binary64 bits of the floating point number nearest to a positive rational. A significand has
53 binary digits, and fewer below the least normal number; one that is rounded up to a power of two
carries into the exponent by itself. -/
def nearestBits (a : Ratio) : Nat :=
  if a.num = 0 then 0
  else
    let unit : Int := max (a.binaryMagnitude - 52) (-1074)
    let significand := (a.scale (-unit)).roundHalfEven
    min ((unit + 1074).toNat * Nat.pow 2 52 + significand) (2047 * Nat.pow 2 52)

/-- The floating point number nearest to a positive rational, which may be infinity. -/
def nearest (a : Ratio) : Float := Float.ofBits (UInt64.ofNat a.nearestBits)

end Ratio

/-- The floating point number nearest to `digits · 10 ^ power`, which may be infinity. A number
beyond every floating point number, or below half the least, is recognised by its length alone. -/
def nearestFloat (digits : Nat) (power : Int) : Float :=
  let size : Int := (Nat.toDigits 10 digits).length + power
  if digits = 0 || size < -400 then 0
  else if 400 < size then 1 / 0
  else (Ratio.ofDecimal digits power).nearest

/-- The floating point number nearest to `10 ^ power`. -/
def powerOfTen (power : Nat) : Float := nearestFloat 1 power

end TransitForecast.Decimal
