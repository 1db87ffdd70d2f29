import TransitForecast.Console.Client

/-!
# TransitForecast — connections

Where the server of an address listens, and the bytes that go over a connection to it: one request,
and one reply after which the server closes. The bytes of a reply are looked at as
characters below 256 until its body is known.
-/

namespace TransitForecast.Console

/-- Where a server listens. -/
structure Endpoint where
  host : String
  port : Nat
  deriving DecidableEq, Repr

/-- The port of the web unless an address says otherwise. -/
def webPort : Nat := 80

/-- The text between brackets, or the whole text. -/
def withoutBrackets (host : List Char) : List Char :=
  match host with
  | '[' :: rest => rest.takeWhile (· ≠ ']')
  | other => other

/-- Where the server of an address listens, if the connection needs no secrets. -/
def Address.endpoint? (a : Address) : Option Endpoint :=
  match a.place with
  | .located (some authority) _ =>
    if a.scheme = "http" then
      some ⟨String.ofList (withoutBrackets authority.host.toList), authority.port.getD webPort⟩
    else none
  | _ => none

-- ---------------------------------------------------------------------------
-- Requests
-- ---------------------------------------------------------------------------

/-- A line with the break that ends it. -/
def headerLine (line : String) : String := line ++ "\r\n"

/-- What is said about a body: its kind and its length in bytes. -/
def bodyHeader (body : String) : String :=
  if body.isEmpty then ""
  else headerLine "content-type: application/json" ++
    headerLine ("content-length: " ++ toString body.utf8ByteSize)

/-- The text of a request to an endpoint. -/
def requestText (e : Endpoint) (r : Api.Request) : String :=
  headerLine (r.method ++ " " ++ r.target ++ " HTTP/1.1") ++
  headerLine ("host: " ++ e.host ++ ":" ++ toString e.port) ++
  headerLine "accept: */*" ++
  headerLine "connection: close" ++
  bodyHeader r.body ++ headerLine "" ++ r.body

-- ---------------------------------------------------------------------------
-- Replies
-- ---------------------------------------------------------------------------

/-- The line break of a reply. -/
def lineBreak : List Char := ['\r', '\n']

/-- The value of a field in the lines of a head; case does not matter in names. -/
def fieldValue? (name : String) (lines : List (List Char)) : Option (List Char) :=
  lines.findSome? fun line =>
    match cutAt? [':'] line with
    | some (before, value) =>
      if (String.ofList before).toLower = name then
        some ((Text.dropBlanks (Text.dropBlanks value).reverse).reverse)
      else none
    | none => none

/-- The size at the start of a chunk. -/
def chunkSize? (line : List Char) : Option Nat :=
  let digits := line.takeWhile fun c => (Text.hexDigit? c).isSome
  if digits.isEmpty then none
  else some (digits.foldl (fun n c => 16 * n + (Text.hexDigit? c).getD 0) 0)

/-- The body that chunks make up: each tells its size, and one of size zero ends it. -/
def joinChunks? : Nat → List Char → Option (List Char)
  | 0, _ => none
  | fuel + 1, cs =>
    match cutAt? lineBreak cs with
    | none => none
    | some (line, rest) =>
      match chunkSize? line with
      | none => none
      | some 0 => some []
      | some n =>
        if rest.length < n then none
        else (joinChunks? fuel (rest.drop (n + lineBreak.length))).map (rest.take n ++ ·)

/-- The body of a reply by what its head says: chunks, a length, or everything that came. -/
def replyBody? (lines : List (List Char)) (rest : List Char) : Option (List Char) :=
  match fieldValue? "transfer-encoding" lines, fieldValue? "content-length" lines with
  | some _, _ => joinChunks? rest.length rest
  | none, some digits =>
    (Decimal.natural? digits).bind fun n => if rest.length < n then none else some (rest.take n)
  | none, none => some rest

/-- The status code in the first line of a reply. -/
def statusOf? (line : List Char) : Option Nat :=
  match splitOnElement ' ' line with
  | _ :: status :: _ => Decimal.natural? status
  | _ => none

/-- Reads a reply from all bytes that came. -/
def Reply.ofBytes? (bytes : List UInt8) : Option Reply := do
  let cs := bytes.map fun b => Char.ofNat b.toNat
  let (head, rest) ← cutAt? (lineBreak ++ lineBreak) cs
  let lines := (splitOnElement '\n' head).map fun line => line.filter (· ≠ '\r')
  let status ← lines.head?.bind statusOf?
  let body ← replyBody? lines rest
  let text ← Text.ofBytes? (body.map fun c => UInt8.ofNat c.toNat)
  return ⟨status, text⟩

end TransitForecast.Console
