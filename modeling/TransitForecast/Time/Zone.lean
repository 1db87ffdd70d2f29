import TransitForecast.Time.Text

/-!
# TransitForecast — time zones of agencies

A zone has a name, and tells how far its clocks are ahead of UTC at each instant. Which zones there
are and what rules their clocks follow is not laid down here: a table of zones comes from outside.
A clock that is ahead of UTC or behind it may show a date for which none exists, shortly before the
end of the instants or shortly after their beginning.

## Results

* `Zone.wallTime?_isSome_iff` — when a wall in a zone shows a date that exists.
-/

namespace TransitForecast

/-- A time zone. -/
structure Zone where
  name : String
  /-- Seconds by which its clocks are ahead of UTC at an instant. -/
  offset : Instant → Int

/-- The zones that there are, by their names. -/
abbrev ZoneTable := String → Option Zone

/-- What the clock and the calendar on a wall show. -/
structure WallTime where
  date : Date
  hour : Nat
  minute : Nat
  second : Nat
  deriving DecidableEq, Repr

namespace Zone

/-- What a clock in a zone shows at an instant, as seconds since it showed the epoch. -/
def localSecond (z : Zone) (t : Instant) : Int := t.epochSeconds + z.offset t

/-- What a wall in a zone shows at an instant; `none` when there is no such date. -/
def wallTime? (z : Zone) (t : Instant) : Option WallTime :=
  let seconds := z.localSecond t
  if Instant.firstSecond ≤ seconds ∧ seconds < Instant.endSecond then
    let ofDay := (seconds % Instant.secondsPerDay).toNat
    some ⟨⟨seconds / Instant.secondsPerDay⟩, ofDay / 3600, ofDay / 60 % 60, ofDay % 60⟩
  else none

/-- A wall in a zone shows a date as long as its clock stays in the range of instants. -/
theorem wallTime?_isSome_iff {z : Zone} {t : Instant} :
    (z.wallTime? t).isSome = true ↔
      Instant.firstSecond ≤ z.localSecond t ∧ z.localSecond t < Instant.endSecond := by
  unfold wallTime?
  dsimp only
  split
  · rename_i h
    exact ⟨fun _ => h, fun _ => rfl⟩
  · rename_i h
    exact ⟨nofun, fun hInside => absurd hInside h⟩

end Zone

end TransitForecast
