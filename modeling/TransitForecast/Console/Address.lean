import TransitForecast.Decimal.Integer
import TransitForecast.HostName.Ascii

/-!
# TransitForecast — addresses

The address of an aggregator's HTTP interface: a scheme, a host with an optional
port, and a path against which the paths of requests are resolved. Control characters and blanks
around an address do not count, nor do tabs and line breaks inside it. For the schemes
of the web a host is needed, and backslashes stand for slashes.
-/

namespace TransitForecast.Console

/-- A host and its port, unless it is that of the scheme. -/
structure Authority where
  host : String
  port : Option Nat
  deriving DecidableEq, Repr

/-- What follows the scheme of an address. -/
inductive Place
  /-- Text that no path can be resolved against. -/
  | opaqueText (text : String)
  /-- An authority, and the parts of a path between its slashes. -/
  | located (authority : Option Authority) (path : List String)
  deriving DecidableEq, Repr

/-- An address. -/
structure Address where
  scheme : String
  place : Place
  deriving DecidableEq, Repr

namespace Address

-- ---------------------------------------------------------------------------
-- Hosts
-- ---------------------------------------------------------------------------

/-- The value of a number in a numeric host: sixteen after `0x`, eight after `0`, else ten is its
base. -/
def hostNumber? (s : List Char) : Option Nat :=
  let digits? (base : Nat) (cs : List Char) : Option Nat :=
    cs.foldlM (fun n c =>
      match Text.hexDigit? c with
      | some d => if d < base then some (base * n + d) else none
      | none => none) 0
  match s with
  | [] => none
  | '0' :: 'x' :: rest => digits? 16 rest
  | '0' :: 'X' :: rest => digits? 16 rest
  | '0' :: rest => digits? 8 rest
  | other => digits? 10 other

/-- The labels of a host between its points; one point may end it. -/
def labels (host : List Char) : List (List Char) :=
  let all := splitOnElement '.' host
  if 1 < all.length && all.getLast? = some [] then all.dropLast else all

/-- Whether a host is numeric, which its last label decides. -/
def endsInNumber (host : List Char) : Bool :=
  match (labels host).getLast? with
  | some last => !last.isEmpty && (last.all Char.isDigit || (hostNumber? last).isSome)
  | none => false

/-- Whether a numeric host is an address of four bytes. The last number stands for all bytes that
are left. -/
def isIpv4 (host : List Char) : Bool :=
  let parts := labels host
  match parts.mapM hostNumber? with
  | none => false
  | some numbers =>
    let leading := numbers.dropLast
    numbers.length ≤ 4 && leading.all (· ≤ 255) &&
      numbers.getLast?.any fun last => last < Nat.pow 256 (5 - numbers.length)

/-- Whether a part of a long host is a decimal byte. -/
def isByte (cs : List Char) : Bool :=
  match Decimal.natural? cs with
  | some n => n ≤ 255 && (cs.length = 1 || cs.head? ≠ some '0')
  | none => false

/-- The number of groups that the pieces of a long host are; only the last piece may be four
bytes. -/
def groups? (last : Bool) : List (List Char) → Option Nat
  | [] => some 0
  | piece :: rest =>
    if piece.contains '.' then
      let bytes := splitOnElement '.' piece
      if last && rest.isEmpty && bytes.length = 4 && bytes.all isByte then some 2 else none
    else if 0 < piece.length && piece.length ≤ 4 && piece.all fun c => (Text.hexDigit? c).isSome then
      (groups? last rest).map (· + 1)
    else none

/-- The parts before and after the first two colons in a row. -/
def cutColons? : List Char → Option (List Char × List Char)
  | ':' :: ':' :: rest => some ([], rest)
  | c :: rest => (cutColons? rest).map fun (before, after) => (c :: before, after)
  | [] => none

/-- The number of groups of a part of a long host. -/
def countGroups? (last : Bool) (cs : List Char) : Option Nat :=
  if cs.isEmpty then some 0 else groups? last (splitOnElement ':' cs)

/-- Whether a host in brackets is an address of eight groups, of which two colons may leave some
out. -/
def isIpv6 (cs : List Char) : Bool :=
  match cutColons? cs with
  | none => countGroups? true cs = some 8
  | some (before, after) =>
    match countGroups? false before, countGroups? true after with
    | some a, some b => a + b ≤ 7
    | _, _ => false

/-- Characters that no host may hold. -/
def isForbidden (c : Char) : Bool :=
  c.toNat = 0 || "\t\n\r #/:<>?@[\\]^|".toList.contains c

/-- The name of a host of the web, in plain letters. -/
def webHost? (host : List Char) : Option String := do
  let name ← HostName.ascii? (← Text.unescapeLenient? (String.ofList host))
  let cs := name.toList
  if !cs.isEmpty && (!endsInNumber cs || isIpv4 cs) then some name else none

/-- The host of a text; `special` for the schemes of the web. -/
def host? (special : Bool) (host : List Char) : Option String :=
  match host with
  | '[' :: rest =>
    if rest.getLast? = some ']' && isIpv6 rest.dropLast then some (String.ofList host) else none
  | _ =>
    if special then webHost? host
    else if host.any isForbidden then none
    else some (String.ofList host)

/-- A host and the text after the first colon outside of brackets. -/
def splitPort (inside : Bool) : List Char → List Char × Option (List Char)
  | [] => ([], none)
  | c :: rest =>
    if c = ':' && !inside then ([], some rest)
    else
      let (host, port) := splitPort (if c = '[' then true else if c = ']' then false else inside) rest
      (c :: host, port)

/-- The port of a text; an empty one stands for that of the scheme. A backslash ends it. -/
def port? (text : List Char) : Option (Option Nat) :=
  let digits := text.takeWhile (· ≠ '\\')
  if digits.isEmpty then some none
  else
    match Decimal.natural? digits with
    | some n => if n ≤ 65535 then some (some n) else none
    | none => none

/-- The authority of a text: a host, after what names a user and before a port. Where a user or a port
is given there is a host; `last` tells that the text ends the address. -/
def authority? (special last : Bool) (cs : List Char) : Option Authority :=
  let (user, rest) := (splitLast? '@' cs).elim (none, cs) fun (user, rest) => (some user, rest)
  let (host, port) := splitPort false rest
  let named := user.any fun u => u ≠ [':'] && (!u.isEmpty || !last)
  if host.isEmpty && (special || named || port.isSome) then none
  else do
    let host ← host? special host
    return ⟨host, ← (port.elim (some none) port?)⟩

-- ---------------------------------------------------------------------------
-- Addresses
-- ---------------------------------------------------------------------------

/-- Schemes of the web. -/
def specialSchemes : List String := ["http", "https", "ws", "wss", "ftp"]

/-- The text without what does not count. -/
def clean (s : String) : List Char :=
  let isEdge := fun (c : Char) => c.toNat ≤ 0x20
  let trimmed := ((s.toList.dropWhile isEdge).reverse.dropWhile isEdge).reverse
  trimmed.filter fun c => c ≠ '\t' && c ≠ '\n' && c ≠ '\r'

/-- The scheme of an address in lower case, and what follows its colon. -/
def scheme? (cs : List Char) : Option (String × List Char) :=
  let name := cs.takeWhile fun c => c.isAlphanum || c = '+' || c = '-' || c = '.'
  match name.head?, cs.drop name.length with
  | some first, ':' :: rest =>
    if first.isAlpha then some ((String.ofList name).toLower, rest) else none
  | _, _ => none

/-- Whether a character separates the parts of a path. -/
def isSlash (special : Bool) (c : Char) : Bool := c = '/' || (special && c = '\\')

/-- Lets one slash stand for all that separate parts. -/
def evenSlashes (special : Bool) (cs : List Char) : List Char :=
  cs.map fun c => if isSlash special c then '/' else c

/-- The path of an address without query and fragment. -/
def pathOnly (cs : List Char) : List Char := cs.takeWhile fun c => c ≠ '?' && c ≠ '#'

/-- Whether a part of a path stands for the same place. -/
def isDot (part : String) : Bool := part = "." || part.toLower = "%2e"

/-- Whether a part of a path stands for the place above. -/
def isDoubleDot (part : String) : Bool :=
  ["..", ".%2e", "%2e.", "%2e%2e"].contains part.toLower

/-- Resolves the parts that stand for places. A last one leaves an empty part. -/
def normalize (parts : List String) : List String :=
  let step := fun (kept : List String) (part : String) =>
    if isDoubleDot part then kept.dropLast else if isDot part then kept else kept ++ [part]
  let resolved := parts.foldl step []
  if parts.getLast?.any fun p => isDot p || isDoubleDot p then resolved ++ [""] else resolved

/-- A byte as an escape. -/
def escapeByte (b : UInt8) : List Char :=
  let digit := fun (n : Nat) => (Nat.digitChar n).toUpper
  ['%', digit (b.toNat / 16), digit (b.toNat % 16)]

/-- A part of a path with the characters escaped that may not stand in it. -/
def escapePart (part : String) : String :=
  let braces := [Char.ofNat 0x7b, Char.ofNat 0x7d, Char.ofNat 0x60]
  String.ofList (part.toList.flatMap fun c =>
    if c.toNat ≤ 0x20 || 0x7e < c.toNat || ['"', '#', '<', '>', '?', '^'].contains c ||
        braces.contains c then
      (String.utf8EncodeChar c).flatMap escapeByte
    else [c])

/-- The parts of an absolute path. -/
def partsOf (path : List Char) : List String :=
  normalize ((splitOnElement '/' path).map fun p => escapePart (String.ofList p))

/-- An address with an authority. -/
def withAuthority? (scheme : String) (special : Bool) (cs : List Char) : Option Address :=
  let isEnd := fun c => isSlash special c || c = '?' || c = '#'
  let text := cs.takeWhile fun c => !isEnd c
  let rest := cs.drop text.length
  (authority? special rest.isEmpty text).map fun authority =>
    ⟨scheme, .located (some authority) (partsOf ((evenSlashes special (pathOnly rest)).drop 1))⟩

/-- Whether a text names a drive, which is not a host. -/
def isDrive : List Char → Bool
  | [letter, sign] => letter.isAlpha && (sign = ':' || sign = '|')
  | _ => false

/-- The address of a file; the host may be left out. -/
def fileAddress? (cs : List Char) : Option Address :=
  match evenSlashes true (pathOnly cs) with
  | '/' :: '/' :: more =>
    let text := more.takeWhile (· ≠ '/')
    if text.isEmpty || isDrive text then
      some ⟨"file", .located none (partsOf (more.dropWhile (· = '/')))⟩
    else
      (host? true text).map fun host =>
        ⟨"file", .located (some ⟨host, none⟩) (partsOf ((more.drop text.length).drop 1))⟩
  | other => some ⟨"file", .located none (partsOf (other.dropWhile (· = '/')))⟩

/-- Reads an address. -/
def parse? (s : String) : Option Address :=
  match scheme? (clean s) with
  | none => none
  | some (scheme, rest) =>
    if specialSchemes.contains scheme then
      withAuthority? scheme true (rest.dropWhile (isSlash true))
    else if scheme = "file" then fileAddress? rest
    else
      match rest with
      | '/' :: '/' :: more => withAuthority? scheme false more
      | '/' :: more => some ⟨scheme, .located none (partsOf (pathOnly more))⟩
      | other => some ⟨scheme, .opaqueText (String.ofList other)⟩

/-- The address of a path that is given relative to this one; `none` when no path can be resolved
against it. -/
def resolve? (a : Address) (path : String) : Option Address :=
  match a.place with
  | .opaqueText _ => none
  | .located authority parts =>
    let more := (splitOnElement '/' (pathOnly path.toList)).map fun p => escapePart (String.ofList p)
    some { a with place := .located authority (normalize (parts.dropLast ++ more)) }

/-- The path of an address. -/
def path (a : Address) : String :=
  match a.place with
  | .opaqueText text => text
  | .located _ parts => "/" ++ String.intercalate "/" parts

end Address

end TransitForecast.Console
