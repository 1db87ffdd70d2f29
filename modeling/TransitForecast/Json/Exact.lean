import TransitForecast.Json.Basic

/-!
# TransitForecast — documents compared exactly

Two views of a document for those who compare documents. `Json.exact` shows the bits of every
floating point number, so that equal documents hold equal numbers whatever a reader makes
of decimal digits. `Json.without` leaves out members that differ from run to run, such
as time stamps.
-/

namespace TransitForecast.Json

/-- The last `k` hexadecimal digits of a number, before some more digits. -/
def hexDigits (n : Nat) : Nat → List Char → List Char
  | 0, more => more
  | k + 1, more => hexDigits (n / 16) k (Nat.digitChar (n % 16) :: more)

/-- The bits of a number as 16 hexadecimal digits. Both zeros are one number, and so are
all values that are not numbers. -/
def floatBits (x : Float) : String :=
  if x.isNaN then "nan"
  else String.ofList (hexDigits (if x == 0 then 0 else x.toBits.toNat) 16 [])

mutual

/-- Shows the bits of every floating point number. -/
def exact : Json → Json
  | .float x => .string (floatBits x)
  | .array items => .array (exactItems items)
  | .object members => .object (exactMembers members)
  | other => other

/-- Shows the bits in every item. -/
def exactItems : List Json → List Json
  | [] => []
  | item :: rest => exact item :: exactItems rest

/-- Shows the bits in every member. -/
def exactMembers : List (String × Json) → List (String × Json)
  | [] => []
  | (name, value) :: rest => (name, exact value) :: exactMembers rest

end

mutual

/-- Leaves out the members of some names, at any depth. -/
def without (names : List String) : Json → Json
  | .array items => .array (withoutItems names items)
  | .object members => .object (withoutMembers names members)
  | other => other

/-- Leaves out members of every item. -/
def withoutItems (names : List String) : List Json → List Json
  | [] => []
  | item :: rest => without names item :: withoutItems names rest

/-- Leaves out members of the names, and of what is left. -/
def withoutMembers (names : List String) : List (String × Json) → List (String × Json)
  | [] => []
  | (name, value) :: rest =>
    if names.contains name then withoutMembers names rest
    else (name, without names value) :: withoutMembers names rest

end

end TransitForecast.Json
