import TransitForecast.Measure

/-!
# TransitForecast — sharing a time among stop pairs

A travel time over a run is shared among the pairs of neighbouring stops in
proportion to their scheduled times. A pair whose scheduled time is not positive
counts as taking no time; if no pair takes time, all get the same share.

## Results

* `shares_length`, `split_length` — one part for each pair.
-/

namespace TransitForecast.Allocation

variable {α : Type} [Measure α]

/-- The share of each pair, from the scheduled whole seconds of the pairs. -/
def shares (pairs : List Int) : List α :=
  let times : List α := pairs.map fun n => Measure.ofInt (max n 0)
  let total := Measure.sum times
  if Measure.zero < total then times.map fun t => t / total
  else times.map fun _ => Measure.one / Measure.ofInt pairs.length

/-- A total, shared among the pairs. -/
def split (pairs : List Int) (total : α) : List α := (shares pairs).map fun share => total * share

theorem shares_length (pairs : List Int) : (shares pairs : List α).length = pairs.length := by
  unfold shares
  dsimp only
  split <;> simp

theorem split_length (pairs : List Int) (total : α) : (split pairs total).length = pairs.length := by
  simp [split, shares_length]

end TransitForecast.Allocation
