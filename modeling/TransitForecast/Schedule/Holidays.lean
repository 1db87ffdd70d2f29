import TransitForecast.Time.Date

/-!
# TransitForecast — holidays

A fixed set of dates with holiday service.
-/

namespace TransitForecast

/-- Dates with holiday service, each once. -/
structure Holidays where
  dates : List Date
  deriving DecidableEq

namespace Holidays

/-- The set of the dates of a list. -/
def ofList (dates : List Date) : Holidays := ⟨dates.eraseDups⟩

/-- Whether a date is a holiday. -/
def isHoliday (h : Holidays) (d : Date) : Bool := h.dates.contains d

/-- Number of holidays. -/
def size (h : Holidays) : Nat := h.dates.length

end Holidays

end TransitForecast
