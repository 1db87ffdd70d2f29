import TransitForecast.Time.Date

/-!
# TransitForecast — instants and spans

An instant is a second, counted from 1970-01-01T00:00:00Z within the years for which dates exist,
and a number of nanoseconds in it. A second may be followed by a leap second, which has no number of
its own: it is the second billion of nanoseconds of the one before it. Moving an instant may leave
the range of dates, so it yields an option; the span between two instants always exists.

## Results

* `Instant.position_shift?` — away from leap seconds a shift moves by exactly the span.
* `Instant.shift?_cases` — where a shift leads, from inside a leap second too.
* `Instant.shift?_isSome` — away from leap seconds a shift succeeds iff its result is in range.
* `Instant.since_ordinary` — between instants outside leap seconds lies the span of their positions.
-/

namespace TransitForecast

/-- Nanoseconds in a second. -/
def nanosPerSecond : Int := 1000000000

/-- A length of time, positive or negative, in nanoseconds. -/
structure Span where
  nanos : Int
  deriving DecidableEq, Repr

namespace Span

/-- Most whole seconds that a span may be made of. -/
def maxSeconds : Int := 9223372036854775

/-- The span of whole seconds, if it is not too long. -/
def ofSeconds? (seconds : Int) : Option Span :=
  if -maxSeconds ≤ seconds ∧ seconds ≤ maxSeconds then some ⟨seconds * nanosPerSecond⟩ else none

/-- The span of whole minutes, if it is not too long. -/
def ofMinutes? (minutes : Int) : Option Span := ofSeconds? (minutes * 60)

/-- The whole seconds of a span, rounded toward zero. -/
def seconds (s : Span) : Int := s.nanos.tdiv nanosPerSecond

instance : LE Span := ⟨fun a b => a.nanos ≤ b.nanos⟩
instance : LT Span := ⟨fun a b => a.nanos < b.nanos⟩
instance (a b : Span) : Decidable (a ≤ b) := inferInstanceAs (Decidable (a.nanos ≤ b.nanos))
instance (a b : Span) : Decidable (a < b) := inferInstanceAs (Decidable (a.nanos < b.nanos))

/-- The span backwards. -/
def neg (s : Span) : Span := ⟨-s.nanos⟩

end Span

/-- A point in time. -/
structure Instant where
  /-- Seconds since 1970-01-01T00:00:00Z. -/
  second : Int
  /-- Nanoseconds since that second began; from a billion on they lie in a leap second. -/
  nanos : Nat
  inRange : -8334601228800 ≤ second ∧ second < 8210266876800
  nanos_lt : nanos < 2000000000
  deriving DecidableEq

namespace Instant

/-- Number of the first second. -/
def firstSecond : Int := -8334601228800

/-- Number of the second right after the last one. -/
def endSecond : Int := 8210266876800

/-- Whether the instant lies in a leap second. -/
def isLeap (t : Instant) : Bool := 1000000000 ≤ t.nanos

/-- Nanoseconds since 1970-01-01T00:00:00Z, leap seconds not counted: an instant in a leap second
shares its position with one in the second after it. -/
def position (t : Instant) : Int := t.second * nanosPerSecond + t.nanos

/-- The instant at a position outside leap seconds, if it is in range. -/
def ofPosition? (position : Int) : Option Instant :=
  if h : -8334601228800 ≤ position / 1000000000 ∧ position / 1000000000 < 8210266876800 then
    some ⟨position / 1000000000, (position % 1000000000).toNat, h, by omega⟩
  else none

/-- The instant in a second at a number of nanoseconds, if both are in range. -/
def at? (second : Int) (nanos : Nat) : Option Instant :=
  if h : (-8334601228800 ≤ second ∧ second < 8210266876800) ∧ nanos < 2000000000 then
    some ⟨second, nanos, h.1, h.2⟩
  else none

/-- 1970-01-01T00:00:00Z. -/
def epoch : Instant := ⟨0, 0, by decide, by decide⟩

instance : Inhabited Instant := ⟨epoch⟩

/-- Instants are ordered by their seconds and within a second by their nanoseconds. -/
def precedes (a b : Instant) : Prop :=
  a.second < b.second ∨ a.second = b.second ∧ a.nanos < b.nanos

instance (a b : Instant) : Decidable (precedes a b) :=
  inferInstanceAs (Decidable (_ ∨ _ ∧ _))

instance : LT Instant := ⟨precedes⟩
instance : LE Instant := ⟨fun a b => ¬ precedes b a⟩
instance (a b : Instant) : Decidable (a < b) := inferInstanceAs (Decidable (precedes a b))
instance (a b : Instant) : Decidable (a ≤ b) := inferInstanceAs (Decidable (¬ precedes b a))

/-- The later of two instants. -/
def max (a b : Instant) : Instant := if a ≤ b then b else a

/-- The earlier of two instants. -/
def min (a b : Instant) : Instant := if a ≤ b then a else b

/-- The instant a span later, if it is in range. Within a leap second a move of less than a second
stays in the same count of nanoseconds as long as it does not reach the next second; any other move
forward leaves from the second before the leap second, any other move backward from the one after. -/
def shift? (t : Instant) (s : Span) : Option Instant :=
  if t.isLeap then
    if h : 2000000000 ≤ t.nanos + s.nanos then ofPosition? (t.position - 1000000000 + s.nanos)
    else if s.nanos ≤ -1000000000 then ofPosition? (t.position + s.nanos)
    else some ⟨t.second, (t.nanos + s.nanos).toNat, t.inRange, by omega⟩
  else ofPosition? (t.position + s.nanos)

/-- The instant a number of whole seconds later, if both the span and the instant exist. -/
def shiftSeconds? (t : Instant) (seconds : Int) : Option Instant :=
  (Span.ofSeconds? seconds).bind t.shift?

/-- Seconds in a day. -/
def secondsPerDay : Int := 86400

/-- Seconds since midnight UTC; a leap second counts as the one before it. -/
def secondOfDay (t : Instant) : Nat := (t.second % secondsPerDay).toNat

/-- The span from `earlier` to `later`. The leap second that the one of them with the smaller time of
day lies in counts as a second of its own. -/
def since (later earlier : Instant) : Span :=
  let counted : Int :=
    if earlier.secondOfDay < later.secondOfDay ∧ earlier.isLeap then nanosPerSecond
    else if later.secondOfDay < earlier.secondOfDay ∧ later.isLeap then -nanosPerSecond
    else 0
  ⟨later.position - earlier.position + counted⟩

/-- Whole seconds since the epoch, rounded down. -/
def epochSeconds (t : Instant) : Int := t.second

/-- Whole milliseconds since the epoch, rounded down. -/
def epochMillis (t : Instant) : Int := t.position / 1000000

/-- The instant at a number of whole seconds. -/
def ofEpochSeconds? (seconds : Int) : Option Instant := ofPosition? (seconds * nanosPerSecond)

/-- The instant at a number of whole milliseconds. -/
def ofEpochMillis? (millis : Int) : Option Instant := ofPosition? (millis * 1000000)

theorem position_ofPosition? {n : Int} {t : Instant} (h : ofPosition? n = some t) :
    t.position = n := by
  unfold ofPosition? at h
  split at h
  · injection h with h
    subst h
    unfold position nanosPerSecond
    dsimp only
    omega
  · simp at h

/-- What is found at a position lies outside leap seconds. -/
theorem isLeap_ofPosition? {n : Int} {t : Instant} (h : ofPosition? n = some t) :
    t.isLeap = false := by
  unfold ofPosition? at h
  split at h
  · injection h with h
    subst h
    simp only [isLeap, decide_eq_false_iff_not]
    omega
  · simp at h

/-- A position is in range iff its second is. -/
theorem ofPosition?_isSome {n : Int} :
    (ofPosition? n).isSome ↔
      firstSecond * nanosPerSecond ≤ n ∧ n < endSecond * nanosPerSecond := by
  unfold ofPosition? firstSecond endSecond nanosPerSecond
  split
  · exact ⟨fun _ => by omega, fun _ => rfl⟩
  · exact ⟨fun found => absurd found (by decide), fun inside => by omega⟩

/-- Away from leap seconds a shift moves by exactly the span. -/
theorem position_shift? {t u : Instant} {s : Span} (ordinary : t.isLeap = false)
    (h : t.shift? s = some u) : u.position = t.position + s.nanos := by
  unfold shift? at h
  rw [ordinary] at h
  exact position_ofPosition? h

/-- A shift from outside leap seconds does not lead into one. -/
theorem isLeap_shift? {t u : Instant} {s : Span} (ordinary : t.isLeap = false)
    (h : t.shift? s = some u) : u.isLeap = false := by
  unfold shift? at h
  rw [ordinary] at h
  exact isLeap_ofPosition? h

/-- Where a shift leads. -/
theorem shift?_cases {t u : Instant} {s : Span} (h : t.shift? s = some u) :
    (t.isLeap = false ∧ u.isLeap = false ∧ u.position = t.position + s.nanos) ∨
    (t.isLeap = true ∧ 2000000000 ≤ t.nanos + s.nanos ∧ u.isLeap = false ∧
      u.position = t.position - 1000000000 + s.nanos) ∨
    (t.isLeap = true ∧ s.nanos ≤ -1000000000 ∧ u.isLeap = false ∧
      u.position = t.position + s.nanos) ∨
    (t.isLeap = true ∧ t.nanos + s.nanos < 2000000000 ∧ -1000000000 < s.nanos ∧
      u.second = t.second ∧ u.nanos = t.nanos + s.nanos) := by
  cases hLeap : t.isLeap with
  | false => exact .inl ⟨rfl, isLeap_shift? hLeap h, position_shift? hLeap h⟩
  | true =>
    unfold shift? at h
    rw [if_pos hLeap] at h
    have hLong : 1000000000 ≤ t.nanos := of_decide_eq_true hLeap
    split at h
    · exact .inr (.inl ⟨rfl, ‹_›, isLeap_ofPosition? h, position_ofPosition? h⟩)
    · split at h
      · exact .inr (.inr (.inl ⟨rfl, ‹_›, isLeap_ofPosition? h, position_ofPosition? h⟩))
      · cases h
        exact .inr (.inr (.inr ⟨rfl, by omega, by omega, rfl, by dsimp only; omega⟩))

/-- Away from leap seconds a shift succeeds iff its result is in range. -/
theorem shift?_isSome {t : Instant} {s : Span} (ordinary : t.isLeap = false) :
    (t.shift? s).isSome ↔
      firstSecond * nanosPerSecond ≤ t.position + s.nanos ∧
        t.position + s.nanos < endSecond * nanosPerSecond := by
  unfold shift?
  rw [ordinary]
  exact ofPosition?_isSome

/-- Between instants outside leap seconds lies the span of their positions. -/
theorem since_ordinary {a b : Instant} (ha : a.isLeap = false) (hb : b.isLeap = false) :
    (a.since b).nanos = a.position - b.position := by
  simp [since, ha, hb]

end Instant

end TransitForecast
