import TransitForecast.Console.Render

/-!
# TransitForecast — the console

One call of the console: from its arguments to what it prints and its exit code. The
address of the aggregator comes from the arguments, else the environment, else a file in the user's
home, else it is the one on this machine.
-/

namespace TransitForecast.Console

/-- The version of the console. -/
def version : String := "0.1.0"

/-- The variable that holds the address. -/
def addressVariable : String := "TPA_API_URL"

/-- The address unless something says otherwise. -/
def defaultAddress : String := "http://localhost:8080"

/-- Where the user's file is, below the home directory. -/
def configPath : String := ".config/tpa/config.json"

/-- What a call leaves. -/
structure Outcome where
  exitCode : Nat
  stdout : String
  stderr : String
  deriving DecidableEq, Repr

namespace Outcome

/-- A success that printed something. -/
def success (stdout : String) : Outcome := ⟨0, stdout, ""⟩

/-- A failure for a reason. -/
def failure (reason : String) : Outcome := ⟨1, "", unlines ["Error: " ++ reason]⟩

end Outcome

/-- What a call finds around it. -/
structure Surroundings where
  /-- The address that the environment holds. -/
  address : Option String
  /-- The contents of the user's file, if there is one. -/
  config : Option String
  /-- The contents of the file at a path. -/
  file : String → Option String

/-- The text on how to call the console. -/
def usageText : String :=
  unlines ["Usage: tpa [OPTIONS] <COMMAND>", "",
    "Commands: status, pending, correlation, publish, help"]

/-- What arguments without a command lead to. -/
def usageOutcome : Usage → Outcome
  | .version => .success (unlines ["tpa " ++ version])
  | .help => .success usageText
  | .wrong => ⟨2, "", usageText⟩

/-- Takes an id apart. -/
def runCorrelation (format : Format) (id : String) : Outcome :=
  match CorrelationId.parse id with
  | .ok c => .success (correlationText format c)
  | .error e =>
    ⟨1, "", unlines [failureLine ("Cannot decode " ++ Text.quoted id), "Error: " ++ e.message]⟩

/-- Reads the user's file: an optional address. -/
def readConfig : Json.Reader (Option String) :=
  Json.FieldReader.record (Json.FieldReader.optional "api_url" Json.Reader.string)

/-- The address in the user's file; `none` when the file cannot be read. -/
def configAddress? (config : Option String) : Option (Option String) :=
  match config with
  | none => some none
  | some text => decode? readConfig text

/-- The text of the address to use. -/
def addressText (i : Invocation) (s : Surroundings) (configured : Option String) : String :=
  ((i.apiUrl.or s.address).or configured).getD defaultAddress

/-- Keeps the batches of a vehicle. -/
def ofVehicle (vehicle : Option String) (batches : List BatchSummary) : List BatchSummary :=
  match vehicle with
  | none => batches
  | some v => batches.filter fun b => b.vehicle = v

/-- The outcome of an exchange. -/
def exchangeOutcome {α : Type} (text : α → String) : Except ExchangeError α → Outcome
  | .ok value => .success (text value)
  | .error e => .failure e.message

/-- Carries out a command against an aggregator. -/
def runCommand {m : Type → Type} [Monad m] (send : Transport m) (s : Surroundings)
    (address : Address) (format : Format) : Command → m Outcome
  | .status => do
    let result ← exchange send address "GET" "api/v1/status" "" Wire.readStatus
    return exchangeOutcome (statusText format) result
  | .pending vehicle => do
    let read := Json.Reader.list Wire.readBatchSummary
    let result ← exchange send address "GET" "api/v1/pending" "" read
    return exchangeOutcome (fun all => batchesText format (ofVehicle vehicle all)) result
  | .publish subject file => do
    match ← publishFile send address subject file (s.file file) with
    | .ok published => return .success (publishedText format published)
    | .error e => return .failure e.message
  | .correlation id => return runCorrelation format id

/-- Carries out a call. Only taking an id apart needs no address. -/
def runInvocation {m : Type → Type} [Monad m] (send : Transport m) (s : Surroundings)
    (i : Invocation) : m Outcome :=
  match i.command with
  | .correlation id => return runCorrelation i.format id
  | command =>
    match configAddress? s.config with
    | none => return .failure "Failed to parse config file"
    | some configured =>
      match Address.parse? (addressText i s configured) with
      | none => return .failure "Invalid API URL"
      | some address => runCommand send s address i.format command

/-- A whole call. -/
def run {m : Type → Type} [Monad m] (send : Transport m) (s : Surroundings)
    (args : List String) : m Outcome :=
  match Invocation.ofArguments args with
  | .error usage => return usageOutcome usage
  | .ok i => runInvocation send s i

end TransitForecast.Console
