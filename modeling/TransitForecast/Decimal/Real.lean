import TransitForecast.Decimal.Integer
import TransitForecast.Decimal.Nearest

/-!
# TransitForecast — decimal numbers read as floating point

The pieces that decimals are written with (runs of digits, a fraction, an
exponent), and reading one as the floating point number nearest to it.
-/

namespace TransitForecast.Decimal

/-- The longest run of digits at the start, and what follows it. -/
def spanDigits (cs : List Char) : List Char × List Char :=
  (cs.takeWhile Char.isDigit, cs.dropWhile Char.isDigit)

/-- The value of a run of digits. -/
def digitsValue (ds : List Char) : Nat := (natural? ds).getD 0

/-- Reads the exponent of a number: nothing, or a mark, an optional sign and at least one digit. -/
def lexExponent? (cs : List Char) : Option (Option Int × List Char) :=
  match cs with
  | c :: rest =>
    if c = 'e' || c = 'E' then
      let (negative, digits) := match rest with
        | '-' :: r => (true, r)
        | '+' :: r => (false, r)
        | r => (false, r)
      let (ds, after) := spanDigits digits
      if ds.isEmpty then none
      else
        let n : Int := digitsValue ds
        some (some (if negative then -n else n), after)
    else some (none, cs)
  | [] => some (none, [])

/-- An optional sign at the start, and what follows it. -/
def spanSign (cs : List Char) : Bool × List Char :=
  match cs with
  | '-' :: rest => (true, rest)
  | '+' :: rest => (false, rest)
  | other => (false, other)

/-- The value that a word stands for: infinity in two spellings, or no number. Case does not
matter. -/
def realWord? (word : String) : Option Float :=
  if ["inf", "infinity"].contains word.toLower then some (1 / 0)
  else if word.toLower = "nan" then some (0 / 0)
  else none

/-- The digits before and after the point, of which there is at least one, and what follows. -/
def spanPoint? (cs : List Char) : Option (List Char × List Char × List Char) :=
  let (whole, rest) := spanDigits cs
  let (places, after) := match rest with
    | '.' :: r => spanDigits r
    | r => ([], r)
  if whole.isEmpty && places.isEmpty then none else some (whole, places, after)

/-- Reads a number: an optional sign, then a word, or digits with an optional point among or beside
them and an optional exponent. What is too large is infinite. -/
def real? (s : String) : Option Float :=
  let (negative, body) := spanSign s.toList
  match realWord? (String.ofList body) with
  | some x => some (if negative then -x else x)
  | none =>
    match spanPoint? body with
    | none => none
    | some (whole, places, after) =>
      match lexExponent? after with
      | some (exponent, []) =>
        let x := nearestFloat (digitsValue (whole ++ places)) (exponent.getD 0 - places.length)
        some (if negative then -x else x)
      | _ => none

end TransitForecast.Decimal
