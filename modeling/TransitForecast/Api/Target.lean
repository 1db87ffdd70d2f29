import TransitForecast.Text.Split

/-!
# TransitForecast — targets of requests

The target of a request is a path with an optional query, an asterisk, an authority, or a whole
address. Only some characters may stand in it unescaped.
-/

namespace TransitForecast.Api

/-- Characters that stand unescaped in a path: all beyond ASCII, and of ASCII those that are visible
but a few. -/
def isPathChar (c : Char) : Bool :=
  let n := c.toNat
  n = 0x21 || (0x24 ≤ n && n ≤ 0x3b) || n = 0x3d || (0x40 ≤ n && n ≤ 0x5f) ||
    (0x61 ≤ n && n ≤ 0x7a) || n = 0x7c || n = 0x7e || 0x80 ≤ n ||
    c = '"' || c = '\x7b' || c = '\x7d'

/-- Characters that stand unescaped in a query. -/
def isQueryChar (c : Char) : Bool :=
  let n := c.toNat
  n = 0x21 || (0x24 ≤ n && n ≤ 0x3b) || n = 0x3d || (0x3f ≤ n && n ≠ 0x7f)

/-- Characters of a scheme. -/
def isSchemeChar (c : Char) : Bool := c.isAlphanum || "+-.~".toList.contains c

/-- Characters of an authority, the percent sign included. -/
def isAuthorityChar (c : Char) : Bool :=
  c.isAlphanum || "-._~!$&'()*+,;=:@[]%".toList.contains c

/-- Characters of a method. -/
def isMethodChar (c : Char) : Bool :=
  c.isAlphanum || "!#$%&'*+-.^_|~".toList.contains c || c = Char.ofNat 0x60

/-- Whether a text names a method. -/
def isMethod (s : String) : Bool := !s.isEmpty && s.toList.all isMethodChar

/-- The path of a path with query; `none` when a character may not stand in it. -/
def pathPart? (cs : List Char) : Option (List Char) :=
  let whole := cs.takeWhile (· != '#')
  let path := whole.takeWhile (· != '?')
  let query := (whole.dropWhile (· != '?')).drop 1
  if path.all isPathChar && query.all isQueryChar then some path else none

-- ---------------------------------------------------------------------------
-- Authorities
-- ---------------------------------------------------------------------------

/-- What matters of the characters of an authority read so far. Colons and percent signs before an at
sign or a closing bracket belong to a user or an address and are forgotten there. -/
structure AuthorityScan where
  colons : Nat
  opened : Bool
  closed : Bool
  percent : Bool
  /-- Whether the last character was an at sign. -/
  atEnd : Bool

/-- Most colons in a row of characters without at sign or closing bracket: those of a bracketed
address, and one before the port. -/
def mostColons : Nat := 8

/-- Reads one more character of an authority. -/
def AuthorityScan.step (a : AuthorityScan) (c : Char) : Option AuthorityScan :=
  if !isAuthorityChar c then none
  else
    let a := { a with atEnd := c = '@' }
    match c with
    | ':' => if a.colons < mostColons then some { a with colons := a.colons + 1 } else none
    | '[' => if a.percent || a.opened then none else some { a with opened := true }
    | ']' =>
      if !a.opened || a.closed then none
      else some { a with closed := true, colons := 0, percent := false }
    | '@' => some { a with colons := 0, percent := false }
    | '%' => some { a with percent := true }
    | _ => some a

/-- Whether characters are an authority: brackets come as one pair, at most one colon and no percent
sign belongs to the host, and a host follows the user. -/
def isAuthority (cs : List Char) : Bool :=
  match cs.foldlM AuthorityScan.step ⟨0, false, false, false, false⟩ with
  | some a => !cs.isEmpty && a.opened == a.closed && a.colons ≤ 1 && !a.atEnd && !a.percent
  | none => false

/-- Characters of the longest scheme. -/
def longestScheme : Nat := 64

/-- Cuts an address behind its scheme. The result is `none` without a scheme; a scheme that is too
long has nothing behind it. -/
def afterScheme? (cs : List Char) : Option (List Char) :=
  let scheme := cs.takeWhile isSchemeChar
  match cs.drop scheme.length with
  | ':' :: '/' :: '/' :: rest => some (if scheme.length ≤ longestScheme then rest else [])
  | _ => none

/-- Bytes of the longest target. -/
def longestTarget : Nat := 65534

/-- The path that a target names; `none` when the target is malformed. -/
def path? (target : String) : Option String :=
  if longestTarget < target.utf8ByteSize then none
  else
    match target.toList with
    | [] => none
    | '/' :: rest => (pathPart? ('/' :: rest)).map String.ofList
    | ['*'] => some "*"
    | cs =>
      match afterScheme? cs with
      | none => if isAuthority cs then some "" else none
      | some rest =>
        let authority := rest.takeWhile fun c => c != '/' && c != '?' && c != '#'
        if isAuthority authority then
          match rest.drop authority.length with
          | [] => some "/"
          | '/' :: path => (pathPart? ('/' :: path)).map String.ofList
          | other => (pathPart? other).map fun _ => "/"
        else none

/-- The parts of a path between its slashes. -/
def segments (path : String) : List String :=
  (splitOnElement '/' path.toList).map String.ofList

end TransitForecast.Api
