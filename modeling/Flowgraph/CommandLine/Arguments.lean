import Flowgraph.Text.Search
/-!
# Arguments

The arguments of a command line: options and a command with its own options and operands. The
options for the configuration, the model and the environment may stand in front of the command or
behind its name; behind it they count more. An option that takes one value may be given once in
each of the two places. Arguments behind `--` are operands.

Main definitions: `CommandLine.Flag`, `CommandLine.Level.scan`, `CommandLine.Arguments`,
`CommandLine.Arguments.read`.
-/

namespace Flowgraph.CommandLine

/-- An option with a value. -/
inductive Flag where
  | config
  | model
  | environment
  | context
  | claim
  | method
  deriving DecidableEq

namespace Flag

/-- The long name of an option. -/
def name : Flag → String
  | config => "config"
  | model => "model"
  | environment => "environment"
  | context => "context"
  | claim => "claim"
  | method => "method"

/-- The short name of an option. -/
def letter? : Flag → Option Char
  | model => some 'm'
  | environment => some 'e'
  | _ => none

/-- Whether an option may be given more than once. -/
def repeats : Flag → Bool
  | claim => true
  | _ => false

/-- Whether the value of an option is a path, which may not be empty. -/
def isPath : Flag → Bool
  | config | model => true
  | _ => false

end Flag

/-- Why reading ends before there is a command. -/
inductive Stop where
  | version
  | help
  /-- The arguments are not in order. -/
  | misuse
  deriving DecidableEq

/-- What may be given in one place. -/
structure Level where
  flags : List Flag
  /-- The number of operands. -/
  operands : Nat
  /-- Whether the version may be asked for. -/
  hasVersion : Bool := false

/-- The options and operands that were given in one place, in order. -/
structure Given where
  values : List (Flag × String) := []
  operands : List String := []

namespace Given

/-- The values of an option. -/
def all (given : Given) (flag : Flag) : List String :=
  (given.values.filter fun entry => entry.1 = flag).map Prod.snd

/-- The value of an option that is given once. -/
def value? (given : Given) (flag : Flag) : Option String :=
  (given.all flag).head?

/-- Adds a value of an option. -/
def add (given : Given) (flag : Flag) (v : String) : Except Stop Given :=
  if !flag.repeats && (given.value? flag).isSome then .error .misuse
  else if flag.isPath && v.isEmpty then .error .misuse
  else .ok { given with values := given.values ++ [(flag, v)] }

/-- Adds an operand. -/
def addOperand (level : Level) (given : Given) (operand : String) : Except Stop Given :=
  if given.operands.length < level.operands then
    .ok { given with operands := given.operands ++ [operand] }
  else .error .misuse

end Given

/-- What one argument is. -/
inductive Argument where
  | stop (why : Stop)
  /-- An option with its value. -/
  | valued (flag : Flag) (v : String)
  /-- An option whose value is the next argument. -/
  | awaiting (flag : Flag)
  | terminator
  | operand (s : String)

/-- Whether an argument is written like an option. -/
def isDashed (s : String) : Bool :=
  Text.startsWith s "-" && s ≠ "-"

namespace Level

/-- An argument with two dashes in front. -/
def classifyLong (level : Level) (cs : List Char) : Argument :=
  let name := String.ofList (Text.before '=' cs)
  let attached := (Text.cutAt? ['='] cs).map fun parts => String.ofList parts.2
  match level.flags.find? (fun flag => flag.name = name), attached with
  | some flag, some v => .valued flag v
  | some flag, none => .awaiting flag
  | none, none =>
    if name = "help" then .stop .help
    else if name = "version" ∧ level.hasVersion then .stop .version
    else .stop .misuse
  | none, some _ => .stop .misuse

/-- An argument with one dash in front. -/
def classifyShort (level : Level) (c : Char) (rest : List Char) : Argument :=
  match level.flags.find? (fun flag => flag.letter? = some c) with
  | some flag =>
    if rest.isEmpty then .awaiting flag
    else .valued flag (String.ofList ((Text.dropMark? ['='] rest).getD rest))
  | none =>
    if c = 'h' then .stop .help
    else if c = 'V' ∧ level.hasVersion then .stop .version
    else .stop .misuse

/-- What an argument is. -/
def classify (level : Level) (s : String) : Argument :=
  match s.toList with
  | ['-', '-'] => .terminator
  | '-' :: '-' :: cs => level.classifyLong cs
  | '-' :: c :: rest => level.classifyShort c rest
  | _ => .operand s

/-- Reads the arguments of one place, all of them. -/
def scan (level : Level) (given : Given) : List String → Except Stop Given
  | [] => .ok given
  | arg :: rest =>
    match level.classify arg with
    | .stop why => .error why
    | .valued flag v => do scan level (← given.add flag v) rest
    | .terminator => rest.foldlM (Given.addOperand level) given
    | .operand s => do scan level (← given.addOperand level s) rest
    | .awaiting flag =>
      match rest with
      | v :: rest => if isDashed v then .error .misuse else do scan level (← given.add flag v) rest
      | [] => .error .misuse

/-- Reads the arguments in front of a command: what is given there, the name of the command and the
arguments behind it. -/
def scanToCommand (level : Level) (given : Given) :
    List String → Except Stop (Given × String × List String)
  | [] => .error .misuse
  | arg :: rest =>
    match level.classify arg with
    | .stop why => .error why
    | .valued flag v => do scanToCommand level (← given.add flag v) rest
    | .terminator => .error .misuse
    | .operand s => .ok (given, s, rest)
    | .awaiting flag =>
      match rest with
      | v :: rest =>
        if isDashed v then .error .misuse else do scanToCommand level (← given.add flag v) rest
      | [] => .error .misuse

end Level

/-! ## Commands -/

/-- What an invocation is given besides its target. -/
structure Input where
  /-- The context as a text, or an at sign and the path of its file. -/
  context : Option String := none
  claims : List String := []

/-- What is to be done. -/
inductive Command where
  | run (node : String) (input : Input)
  | invoke (endpoint method : String) (input : Input)
  | request (method path : String) (input : Input)
  | schema
  | entities

/-- The arguments of a command line. -/
structure Arguments where
  config : Option String := none
  model : Option String := none
  environment : Option String := none
  command : Command

/-- The options that may stand on either side of the command. -/
def globalFlags : List Flag :=
  [.config, .model, .environment]

/-- What may be given in front of the command. -/
def rootLevel : Level :=
  { flags := globalFlags, operands := 0, hasVersion := true }

/-- What may be given behind the name of a command. -/
def commandLevel? (name : String) : Option Level :=
  match name with
  | "run" => some { flags := globalFlags ++ [.context, .claim], operands := 1 }
  | "invoke" => some { flags := globalFlags ++ [.context, .claim, .method], operands := 1 }
  | "request" => some { flags := globalFlags ++ [.context, .claim], operands := 2 }
  | "schema" | "entities" => some { flags := globalFlags, operands := 0 }
  | _ => none

/-- The input among the given options. -/
def Given.input (given : Given) : Input :=
  { context := given.value? .context, claims := given.all .claim }

/-- The command of a name with what is given for it. -/
def Command.ofGiven? (name : String) (given : Given) : Option Command :=
  match name, given.operands with
  | "run", [node] => some (.run node given.input)
  | "invoke", [endpoint] =>
    some (.invoke endpoint ((given.value? .method).getD "get") given.input)
  | "request", [method, path] => some (.request method path given.input)
  | "schema", [] => some .schema
  | "entities", [] => some .entities
  | _, _ => none

/-- What the word for help asks for with the words behind it: help for the program, or for the one
command that is named. -/
def Stop.ofHelp : List String → Stop
  | [] => .help
  | [name] => if name = "help" ∨ (commandLevel? name).isSome then .help else .misuse
  | _ => .misuse

/-- Reads the arguments of a command line. -/
def Arguments.read (args : List String) : Except Stop Arguments := do
  let (outer, name, rest) ← rootLevel.scanToCommand {} args
  if name = "help" then throw (Stop.ofHelp rest)
  match commandLevel? name with
  | none => throw .misuse
  | some level =>
    let inner ← level.scan {} rest
    let pick := fun flag => (inner.value? flag).or (outer.value? flag)
    match Command.ofGiven? name inner with
    | some command => return ⟨pick .config, pick .model, pick .environment, command⟩
    | none => throw .misuse

end Flowgraph.CommandLine
