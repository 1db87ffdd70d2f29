/-!
# TransitForecast — percent escapes

A character that has a meaning of its own is written as a percent sign and two
hexadecimal digits for each of its bytes. Read strictly, every percent sign must
start such an escape; read leniently, one that does not stands for itself.
-/

namespace TransitForecast.Text

/-- The value of one hexadecimal digit. -/
def hexDigit? (c : Char) : Option Nat :=
  if '0' ≤ c ∧ c ≤ '9' then some (c.toNat - 48)
  else if 'a' ≤ c ∧ c ≤ 'f' then some (c.toNat - 87)
  else if 'A' ≤ c ∧ c ≤ 'F' then some (c.toNat - 55)
  else none

/-- The byte that two hexadecimal digits name. -/
def hexByte? (a b : Char) : Option UInt8 :=
  match hexDigit? a, hexDigit? b with
  | some x, some y => some (UInt8.ofNat (16 * x + y))
  | _, _ => none

/-- The bytes of a text whose percent signs all start an escape. -/
def strictBytes? : List Char → Option (List UInt8)
  | [] => some []
  | '%' :: a :: b :: rest =>
    match hexByte? a b, strictBytes? rest with
    | some byte, some bytes => some (byte :: bytes)
    | _, _ => none
  | c :: rest =>
    if c = '%' then none
    else (strictBytes? rest).map fun bytes => String.utf8EncodeChar c ++ bytes

/-- The bytes of a text in which a percent sign without two digits stands for itself. -/
def lenientBytes : List Char → List UInt8
  | [] => []
  | '%' :: a :: b :: rest =>
    match hexByte? a b with
    | some byte => byte :: lenientBytes rest
    | none => String.utf8EncodeChar '%' ++ lenientBytes (a :: b :: rest)
  | c :: rest => String.utf8EncodeChar c ++ lenientBytes rest

/-- The text that bytes spell. -/
def ofBytes? (bytes : List UInt8) : Option String := String.fromUTF8? ⟨bytes.toArray⟩

/-- Reads escapes strictly. -/
def unescape? (s : String) : Option String := (strictBytes? s.toList).bind ofBytes?

/-- Reads escapes leniently; `none` when the bytes spell no text. -/
def unescapeLenient? (s : String) : Option String := ofBytes? (lenientBytes s.toList)

end TransitForecast.Text
