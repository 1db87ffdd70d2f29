/-!
# TransitForecast — splitting

Cutting a list, mostly of characters, at an element or at a pattern.
-/

namespace TransitForecast

/-- The parts of a list before and after the last occurrence of an element. -/
def splitLast? {α : Type} [DecidableEq α] (x : α) : List α → Option (List α × List α)
  | [] => none
  | y :: rest =>
    match splitLast? x rest with
    | some (before, after) => some (y :: before, after)
    | none => if y = x then some ([], rest) else none

/-- The parts of a list between the occurrences of an element; there is always one. -/
def splitOnElement {α : Type} [DecidableEq α] (x : α) : List α → List (List α)
  | [] => [[]]
  | y :: rest =>
    if y = x then [] :: splitOnElement x rest
    else
      match splitOnElement x rest with
      | [] => [[y]]
      | part :: parts => (y :: part) :: parts

/-- The parts of a list before and after the first occurrence of a pattern. -/
def cutAt? {α : Type} [BEq α] (pattern : List α) : List α → Option (List α × List α)
  | [] => none
  | c :: rest =>
    if pattern.isPrefixOf (c :: rest) then some ([], (c :: rest).drop pattern.length)
    else (cutAt? pattern rest).map fun (before, after) => (c :: before, after)

end TransitForecast
