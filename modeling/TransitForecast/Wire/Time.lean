import TransitForecast.Json.Decode
import TransitForecast.Time.Text

/-!
# TransitForecast — times on the wire

An instant is written as text, or as a whole number of seconds or milliseconds
since the epoch, rounded down. A date is read from text.
-/

namespace TransitForecast.Wire

open Json (Reader)

/-- Writes an instant as text. -/
def writeInstant (t : Instant) : Json := .string t.text

/-- Reads an instant from text. -/
def readInstant : Reader Instant := fun j => (Reader.string j).bind Instant.ofText?

/-- Reads a date. -/
def readDate : Reader Date := fun j => (Reader.string j).bind Date.ofAiryText?

/-- Writes the seconds of an instant. -/
def writeSeconds (t : Instant) : Json := .int t.epochSeconds

/-- Reads an instant from seconds. -/
def readSeconds : Reader Instant := fun j =>
  (Reader.int Decimal.int64 j).bind Instant.ofEpochSeconds?

/-- Writes the milliseconds of an instant. -/
def writeMillis (t : Instant) : Json := .int t.epochMillis

/-- Reads an instant from milliseconds. -/
def readMillis : Reader Instant := fun j =>
  (Reader.int Decimal.int64 j).bind Instant.ofEpochMillis?

end TransitForecast.Wire
