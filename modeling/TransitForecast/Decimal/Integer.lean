/-!
# TransitForecast — whole numbers as text

Reading a whole number of a bounded range: an optional sign, then one or more
ASCII digits and nothing else. Leading zeros are allowed.
-/

namespace TransitForecast.Decimal

/-- The value of one ASCII digit. -/
def digit? (c : Char) : Option Nat :=
  if '0' ≤ c ∧ c ≤ '9' then some (c.toNat - '0'.toNat) else none

/-- Appends one digit to a value read so far. -/
def pushDigit (n : Nat) (c : Char) : Option Nat := (digit? c).map (10 * n + ·)

/-- The value of a text of digits alone; `none` for the empty text. -/
def natural? (cs : List Char) : Option Nat :=
  if cs.isEmpty then none else cs.foldlM pushDigit 0

/-- A whole number with an optional sign. -/
def integer? (cs : List Char) : Option Int :=
  match cs with
  | '-' :: ds => (natural? ds).map fun n => -Int.ofNat n
  | '+' :: ds => (natural? ds).map Int.ofNat
  | ds => (natural? ds).map Int.ofNat

/-- A closed range of whole numbers. -/
structure Bounds where
  /-- Least value. -/
  lo : Int
  /-- Greatest value. -/
  hi : Int
  deriving DecidableEq, Repr

namespace Bounds

/-- The signed numbers of a width in bits. -/
def signed (bits : Nat) : Bounds := ⟨-(Nat.pow 2 (bits - 1) : Nat), (Nat.pow 2 (bits - 1) : Nat) - 1⟩

/-- The unsigned numbers of a width in bits. -/
def unsigned (bits : Nat) : Bounds := ⟨0, (Nat.pow 2 bits : Nat) - 1⟩

/-- Whether the range holds the number. -/
def holds (b : Bounds) (n : Int) : Bool := b.lo ≤ n && n ≤ b.hi

/-- The number itself when the range holds it. -/
def check (b : Bounds) (n : Int) : Option Int := if b.holds n then some n else none

/-- The nearest number of the range. -/
def clamp (b : Bounds) (n : Int) : Int := if n < b.lo then b.lo else if b.hi < n then b.hi else n

/-- Reads a number of the range. A range without negative numbers has no minus sign. -/
def read? (b : Bounds) (s : String) : Option Int :=
  let cs := s.toList
  if b.lo = 0 ∧ cs.head? = some '-' then none else (integer? cs).bind b.check

end Bounds

/-- Range of identifiers of models and data sets, and of delays. -/
def int64 : Bounds := .signed 64

/-- Range of model versions and of seconds after midnight. -/
def int32 : Bounds := .signed 32

/-- Range of stop sequences and of counts of observations. -/
def nat32 : Bounds := .unsigned 32

/-- Range of sizes. -/
def nat64 : Bounds := .unsigned 64

/-- Range of network ports. -/
def nat16 : Bounds := .unsigned 16

end TransitForecast.Decimal
