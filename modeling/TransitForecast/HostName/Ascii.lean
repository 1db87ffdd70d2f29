import TransitForecast.HostName.Accent
import TransitForecast.HostName.Direction
import TransitForecast.HostName.Mapping
import TransitForecast.HostName.Punycode

/-!
# TransitForecast — names of hosts

The name by which a host is looked up, in plain letters: each character is put in place of
what stands for it, accents are joined to their letters, and the labels between the points
are checked. A label that is written in plain letters after `xn--` is checked like the
label that it stands for.
-/

namespace TransitForecast.HostName

/-- What a label in plain letters starts with. -/
def mark : List Char := ['x', 'n', '-', '-']

/-- The longest label in plain letters that is read. -/
def longestEncoded : Nat := 2000

/-- The longest label of any script. -/
def longestLabel : Nat := 1000

/-- Characters that no name of a host may hold. -/
def isForbidden (c : Char) : Bool :=
  c.toNat ≤ 0x20 || c.toNat = 0x7f || "#%/:<>?@[\\]^|".toList.contains c

/-- Whether a label has plain characters only. -/
def isAscii (label : List Char) : Bool := label.all fun c => c.toNat < 0x80

/-- The label of any script that a label in plain letters stands for: its characters stand for
themselves, in the one form. -/
def decoded? (text : List Char) : Option (List Char) :=
  if !isAscii text || text.isEmpty || text.getLast? = some '-' then none
  else if longestEncoded < text.length then none
  else
    match Punycode.decode? text with
    | some label =>
      if label.all isPlain && accented label = label then some label else none
    | none => none

/-- Whether a label may stand in a name. -/
def isLabel (label : List Char) : Bool :=
  !label.any isForbidden && !startsWithMark label && joinersFit [] label &&
    (isAscii label || label.length ≤ longestLabel)

/-- A label without its mark, if it has one. -/
def unmarked? (label : List Char) : Option (List Char) :=
  if mark.isPrefixOf label then some (label.drop mark.length) else none

/-- A label as it is checked. -/
def label? (label : List Char) : Option (List Char) :=
  match unmarked? label with
  | some text => (decoded? text).filter isLabel
  | none => if isLabel label then some label else none

/-- The labels of a name, in letters of any script. -/
def labels? (name : String) : Option (List (List Char)) := do
  let meanings ← name.toList.mapM meaning?
  let labels ← (splitOnElement '.' (accented meanings.flatten)).mapM label?
  if readsOneWay labels then some labels else none

/-- A label in plain letters. -/
def plainLabel (label : List Char) : List Char :=
  if isAscii label then label else mark ++ Punycode.encode label

/-- The name of a host in plain letters. -/
def ascii? (name : String) : Option String :=
  (labels? name).map fun labels =>
    ".".intercalate (labels.map fun label => String.ofList (plainLabel label))

end TransitForecast.HostName
