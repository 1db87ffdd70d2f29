import TransitForecast.Console.Client

/-!
# TransitForecast — publishing a file

The messages of a file are posted one by one onto a subject of an aggregator's bus. A
file is one document, of which a list stands for its items, or else has one document on each line
that is not blank. All of the file is read before anything is sent.
-/

namespace TransitForecast.Console

/-- A line without the carriage return at its end. -/
def stripReturn (line : List Char) : List Char :=
  match line.getLast? with
  | some '\r' => line.dropLast
  | _ => line

/-- The lines of a text. A line break ends a line. -/
def textLines (s : String) : List String :=
  let parts := splitOnElement '\n' s.toList
  -- what follows the last line break is a line only if it is not empty
  let ended := parts.dropLast.map stripReturn
  let last := (parts.getLast?.getD [])
  (if last.isEmpty then ended else ended ++ [last]).map String.ofList

/-- Whether a line is blank. -/
def isBlankLine (line : String) : Bool := line.toList.all Text.isBlank

/-- The messages of lines, numbered from a number on; the number of the first line that is no
document. -/
def lineMessages (number : Nat) : List String → Except Nat (List Json)
  | [] => .ok []
  | line :: rest =>
    if isBlankLine line then lineMessages (number + 1) rest
    else
      match Json.document? line with
      | none => .error number
      | some message =>
        match lineMessages (number + 1) rest with
        | .ok more => .ok (message :: more)
        | .error n => .error n

/-- The messages of a file, or the number of its first line that is no document. -/
def messages (contents : String) : Except Nat (List Json) :=
  match Json.document? contents with
  | some (.array items) => .ok items
  | some message => .ok [message]
  | none => lineMessages 1 (textLines contents)

/-- Why a file was not published. -/
inductive PublishError
  | unreadable (file : String)
  | badLine (number : Nat)
  | rejected (number : Nat)
  deriving DecidableEq, Repr

namespace PublishError

/-- The text of a failure. -/
def message : PublishError → String
  | unreadable file => "Failed to read " ++ Text.quoted file
  | badLine number => "Line " ++ toString number ++ " is not valid JSON"
  | rejected number => "Message " ++ toString number ++ " was rejected"

end PublishError

/-- The number of bytes that an aggregator acknowledges. -/
def acknowledgedBytes (reply : Json) : Nat :=
  match reply.member? "bytes" with
  | some (.int n) => n.toNat
  | _ => 0

/-- A reply that is any document. -/
def readDocument : Json.Reader Json := Json.canonical? Json.documentDepth

/-- Posts messages in order, numbered from a number on, and gives the acknowledged bytes. It ends at
the first message that is rejected. -/
def postAll {m : Type → Type} [Monad m] (send : Transport m) (address : Address) (path : String)
    (number bytes : Nat) : List Json → m (Except PublishError Nat)
  | [] => pure (.ok bytes)
  | message :: rest => do
    match ← exchange send address "POST" path message.compact readDocument with
    | .error _ => return .error (.rejected number)
    | .ok reply => postAll send address path (number + 1) (bytes + acknowledgedBytes reply) rest

/-- What was published. -/
structure Published where
  subject : String
  count : Nat
  bytes : Nat
  deriving DecidableEq, Repr

/-- Publishes a file; nothing is published when the file has no messages. -/
def publishFile {m : Type → Type} [Monad m] (send : Transport m) (address : Address)
    (subject file : String) (contents : Option String) :
    m (Except PublishError (Option Published)) :=
  match contents with
  | none => pure (.error (.unreadable file))
  | some text =>
    match messages text with
    | .error number => pure (.error (.badLine number))
    | .ok [] => pure (.ok none)
    | .ok all => do
      match ← postAll send address ("api/v1/bus/" ++ subject) 1 0 all with
      | .error e => return .error e
      | .ok bytes => return .ok (some ⟨subject, all.length, bytes⟩)

end TransitForecast.Console
