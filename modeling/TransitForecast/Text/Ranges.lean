/-!
# TransitForecast — ranges of characters

Sets of characters given as a table of closed ranges of code points.
-/

namespace TransitForecast.Text

/-- A set of characters, as closed ranges of code points in ascending order. -/
abbrev Ranges := List (Nat × Nat)

/-- Whether a range of the table holds the character. -/
def Ranges.holds (table : Ranges) (c : Char) : Bool :=
  table.any fun r => r.1 ≤ c.toNat && c.toNat ≤ r.2

end TransitForecast.Text
