/-!
# TransitForecast — arguments of the console

What the console is asked to do, and how that is read from its arguments: options
of the program, then a command, then options and operands of the command.
Arguments are read from left to right, and the first one that is wrong, or asks
for the version or for help, decides.

An option takes the next argument or what follows an equals sign; the letter of
an option takes also what follows it directly. No value starts with a dash, unless it is only a
dash. After two dashes everything is an operand.
-/

namespace TransitForecast.Console

/-- How results are shown. -/
inductive Format
  | table
  | json
  deriving DecidableEq, Repr

/-- The format of a name. -/
def Format.ofName? (s : String) : Option Format :=
  if s = "table" then some .table else if s = "json" then some .json else none

/-- What the console can do. -/
inductive Command
  | status
  | pending (vehicle : Option String)
  | correlation (id : String)
  | publish (subject file : String)
  deriving DecidableEq, Repr

/-- A call of the console. -/
structure Invocation where
  apiUrl : Option String
  format : Format
  command : Command
  deriving DecidableEq, Repr

/-- What is answered to arguments that ask for no command. -/
inductive Usage
  | version
  | help
  | wrong
  deriving DecidableEq, Repr

/-- An option with a value: its name and letter. -/
structure OptionSpec where
  name : String
  letter : Option Char
  deriving DecidableEq, Repr

/-- An argument as it is written. -/
inductive Word
  /-- Two dashes alone. -/
  | dashes
  /-- A name after two dashes, with what follows an equals sign. -/
  | long (name : String) (value : Option String)
  /-- A letter after one dash, with what follows it. -/
  | short (letter : Char) (rest : List Char)
  | operand (s : String)
  deriving DecidableEq, Repr

/-- The kind of an argument. -/
def Word.ofArgument (s : String) : Word :=
  match s.toList with
  | ['-', '-'] => .dashes
  | '-' :: '-' :: cs =>
    let name := String.ofList (cs.takeWhile (· != '='))
    match cs.dropWhile (· != '=') with
    | [] => .long name none
    | _ :: value => .long name (some (String.ofList value))
  | '-' :: c :: rest => .short c rest
  | _ => .operand s

/-- What was read so far: the values of options by name, and the operands. -/
structure Parsed where
  options : List (String × String)
  operands : List String
  deriving DecidableEq, Repr

/-- The value of an option. -/
def Parsed.option? (p : Parsed) (name : String) : Option String :=
  (p.options.find? fun o => o.1 = name).map Prod.snd

/-- A level of arguments: its options, which values each takes, whether it tells the version, and how
many operands it takes before something else begins. -/
structure Grammar where
  options : List OptionSpec
  accepts : String → String → Bool
  hasVersion : Bool
  operands : Nat

namespace Grammar

/-- Takes the value of an option, which may be given once. -/
def take (g : Grammar) (p : Parsed) (o : OptionSpec) (value : String) : Except Usage Parsed :=
  if (p.option? o.name).isSome then .error .wrong
  else if g.accepts o.name value then .ok { p with options := p.options ++ [(o.name, value)] }
  else .error .wrong

/-- The option of a name. -/
def named? (g : Grammar) (name : String) : Option OptionSpec :=
  g.options.find? fun o => o.name = name

/-- The option of a letter. -/
def lettered? (g : Grammar) (letter : Char) : Option OptionSpec :=
  g.options.find? fun o => o.letter = some letter

/-- What a word without value asks for: the version or help. -/
def plainWord (g : Grammar) (isVersion isHelp : Bool) : Usage :=
  if isVersion && g.hasVersion then .version else if isHelp then .help else .wrong

/-- Takes the next argument as the value of an option. -/
def takeNext (g : Grammar) (p : Parsed) (o : OptionSpec) :
    List String → Except Usage (Parsed × List String)
  | [] => .error .wrong
  | s :: rest =>
    match Word.ofArgument s with
    | .operand value => (g.take p o value).map fun p => (p, rest)
    | _ => .error .wrong

/-- What follows a letter directly, without an equals sign in front. -/
def attached (rest : List Char) : String :=
  match rest with
  | '=' :: value => String.ofList value
  | value => String.ofList value

/-- Reads options until an operand that the level does not take, or to the end, and gives what is
left. -/
def read (g : Grammar) : Nat → Parsed → List String → Except Usage (Parsed × List String)
  | 0, p, args => .ok (p, args)
  | _ + 1, p, [] => .ok (p, [])
  | fuel + 1, p, s :: rest =>
    match Word.ofArgument s with
    | .dashes => .ok ({ p with operands := p.operands ++ rest }, [])
    | .operand value =>
      if p.operands.length < g.operands then
        read g fuel { p with operands := p.operands ++ [value] } rest
      else .ok (p, value :: rest)
    | .long name value =>
      match g.named? name, value with
      | some o, some v =>
        match g.take p o v with
        | .ok p => read g fuel p rest
        | .error u => .error u
      | some o, none =>
        match g.takeNext p o rest with
        | .ok (p, rest) => read g fuel p rest
        | .error u => .error u
      | none, none => .error (g.plainWord (name = "version") (name = "help"))
      | none, some _ => .error .wrong
    | .short letter more =>
      match g.lettered? letter, more with
      | some o, [] =>
        match g.takeNext p o rest with
        | .ok (p, rest) => read g fuel p rest
        | .error u => .error u
      | some o, more =>
        match g.take p o (attached more) with
        | .ok p => read g fuel p rest
        | .error u => .error u
      | none, _ => .error (g.plainWord (letter = 'V') (letter = 'h'))

/-- Reads a level that ends the arguments. -/
def readAll (g : Grammar) (args : List String) : Except Usage Parsed :=
  match g.read (args.length + 1) ⟨[], []⟩ args with
  | .ok (p, []) => if p.operands.length = g.operands then .ok p else .error .wrong
  | .ok _ => .error .wrong
  | .error u => .error u

end Grammar

/-- The options of the program. -/
def programGrammar : Grammar where
  options := [⟨"api-url", none⟩, ⟨"format", some 'f'⟩]
  accepts := fun name value => name != "format" || (Format.ofName? value).isSome
  hasVersion := true
  operands := 0

/-- The arguments of a command without options. -/
def operandGrammar (operands : Nat) : Grammar := ⟨[], fun _ _ => true, false, operands⟩

/-- The arguments of the command that lists batches. -/
def pendingGrammar : Grammar := ⟨[⟨"vehicle", some 'v'⟩], fun _ _ => true, false, 0⟩

/-- Names of the commands. -/
def commandNames : List String := ["status", "pending", "correlation", "publish"]

/-- The command of a name with its arguments. -/
def readCommand (name : String) (args : List String) : Except Usage Command :=
  match name with
  | "status" => (operandGrammar 0).readAll args |>.map fun _ => .status
  | "pending" => pendingGrammar.readAll args |>.map fun p => .pending (p.option? "vehicle")
  | "correlation" =>
    match (operandGrammar 1).readAll args with
    | .ok ⟨_, [id]⟩ => .ok (.correlation id)
    | .ok _ => .error .wrong
    | .error u => .error u
  | "publish" =>
    match (operandGrammar 2).readAll args with
    | .ok ⟨_, [subject, file]⟩ =>
      -- a file has a name
      if file.isEmpty then .error .wrong else .ok (.publish subject file)
    | .ok _ => .error .wrong
    | .error u => .error u
  | "help" =>
    if args.isEmpty then .error .help
    else if args.length = 1 && args.all (commandNames ++ ["help"]).contains then .error .help
    else .error .wrong
  | _ => .error .wrong

/-- Reads the arguments of a call. -/
def Invocation.ofArguments (args : List String) : Except Usage Invocation :=
  match programGrammar.read (args.length + 1) ⟨[], []⟩ args with
  | .error u => .error u
  | .ok (_, []) => .error .wrong
  | .ok (p, name :: rest) =>
    match readCommand name rest with
    | .error u => .error u
    | .ok command =>
      let format := ((p.option? "format").bind Format.ofName?).getD .table
      .ok ⟨p.option? "api-url", format, command⟩

end TransitForecast.Console
