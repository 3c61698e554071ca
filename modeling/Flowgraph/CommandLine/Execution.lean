import Flowgraph.CommandLine.Arguments
import Flowgraph.Config.Load
import Flowgraph.Model.Loader
import Flowgraph.Outbound.Redaction
import Flowgraph.Run.Invocation
/-!
# Executing commands

A command is carried out on the configured stores and, unless it only looks at the registry, on a
model. Its report has the text for the standard output, or the message of the first thing that went
wrong. Reading files is left to the surroundings, in the order in which the files are needed.

Main definitions: `CommandLine.Report`, `CommandLine.loadModel`, `CommandLine.readContext`,
`CommandLine.principalOf`, `CommandLine.execute`.
-/

namespace Flowgraph.CommandLine

/-- What a command line ends with. -/
structure Report where
  /-- The exit code: 0 for success, 1 for a failure and 2 for arguments that are not in order. -/
  code : Nat
  /-- The text for the standard output. -/
  output : String := ""
  /-- What went wrong. -/
  error : Option String := none

/-- A step that may go wrong with a message. -/
abbrev Step (m : Type → Type) := ExceptT String m

/-- The steps that a run may take; in effect any number. -/
def runFuel : Nat := 1000000000000000000

/-! ## Inputs -/

/-- The model of a file. -/
def loadModel {m : Type → Type} [Monad m] (around : Surroundings m) (path : String) :
    Step m Model := do
  let path := Path.expandHome around.home path
  match ← around.read path with
  | .missing | .unreadable _ => throw s!"reading model {path}"
  | .text content =>
    match Path.readDocument? .any path content with
    | none => throw s!"parsing model {path}"
    | some document =>
      match Model.ofValue document with
      | .ok model => return model
      | .error _ => throw s!"loading model {path}"

/-- The model of a file with its environment set. A model without environments takes any name. -/
def loadModelFor {m : Type → Type} [Monad m] (around : Surroundings m) (path environment : String) :
    Step m Model := do
  let model ← loadModel around path
  if model.environments.environments.isEmpty then return model
  match model.setEnvironment? environment with
  | some model => return model
  | none => throw s!"model {path} has no environment named '{environment}'"

/-- The text of a context: the argument itself, or the file that an at sign names. -/
def contextText {m : Type → Type} [Monad m] (around : Surroundings m) (argument : String) :
    Step m String := do
  match Text.dropMark? ['@'] argument.toList with
  | none => return argument
  | some rest =>
    let path := Path.expandHome around.home (String.ofList rest)
    match ← around.read path with
    | .text content => return content
    | .missing | .unreadable _ => throw s!"reading context file {path}"

/-- The context of an input, which must be a map. -/
def readContext {m : Type → Type} [Monad m] (around : Surroundings m) (input : Input) :
    Step m Context := do
  match input.context with
  | none => return .empty
  | some argument =>
    match Value.read? (← contextText around argument) with
    | none => throw "parsing context JSON"
    | some (.map fields) => return .ofFields fields
    | some other =>
      let written := other.render
      throw s!"context must be a JSON object, got {written}"

/-- The type and value of a claim around its first equals sign. -/
def readClaim (claim : String) : Except String (String × String) :=
  match Text.cutAt? ['='] claim.toList with
  | some (type, value) =>
    .ok (String.ofList (Text.trimBoth type), String.ofList (Text.trimBoth value))
  | none =>
    let shown := Redaction.apply claim
    .error s!"claim '{shown}' is not of the form type=value"

/-- The caller with some claims, anonymous without any. -/
def principalOf (claims : List String) : Except String Principal := do
  if claims.isEmpty then return .anonymous
  return .ofClaims (← claims.mapM readClaim)

/-! ## Outputs -/

/-- A value as the text of an output. -/
def outputOf (v : Value) : String :=
  v.renderIndented ++ "\n"

/-- The shared map of a context as a value. -/
def stateOf (context : Context) : Value :=
  .map context.stateMap

/-- The entries that show a result and the shared map. -/
def resultEntries (result : ActionResult) (context : Context) : List (String × Value) :=
  [("success", .bool result.success), ("returnData", result.returnData.getD .null),
    ("state", stateOf context)]

/-- What shows the outcome of an invocation. -/
def outcomeValue (outcome : EndpointOutcome) (context : Context) : Value :=
  .ofEntries <|
    ("status", .int outcome.status) ::
      match outcome with
      | .completed result => resultEntries result context
      | _ => []

/-! ## Commands -/

/-- The end of a run, which a run without one does not have. -/
def finished {m : Type → Type} {α : Type} [Monad m] (outcome : Option α) : Step m α :=
  match outcome with
  | some reached => return reached
  | none => throw "the run did not end"

/-- Carries out a command on a model. -/
def onModel {m : Type → Type} [Monad m] (around : Surroundings m) (app : Application)
    (stores : List Provider) (command : Command) : Step m String := do
  match command with
  | .run node input =>
    let context ← readContext around input
    let (result, after) ← finished (app.run runFuel node { context, stores })
    return outputOf (.ofEntries (resultEntries result after.context))
  | .invoke endpoint method input =>
    let context ← readContext around input
    let principal ← MonadExcept.ofExcept (principalOf input.claims)
    let (outcome, after) ←
      finished (app.invoke runFuel endpoint method principal { context, stores })
    return outputOf (outcomeValue outcome after.context)
  | .request method path input =>
    let context ← readContext around input
    let principal ← MonadExcept.ofExcept (principalOf input.claims)
    let (outcome, after) ← finished (app.handle runFuel method path principal { context, stores })
    return outputOf (outcomeValue outcome after.context)
  | .schema | .entities => return ""

/-- What a configuration stands for, or the message of what is wrong with it. -/
def configured {m : Type → Type} {α : Type} [Monad m] (outcome : Except ConfigError α) : Step m α :=
  match outcome with
  | .ok a => return a
  | .error error => throw error.message

/-- Carries out the command of some arguments. -/
def perform {m : Type → Type} [Monad m] (around : Surroundings m) (args : Arguments) :
    Step m String := do
  let loaded : Except ConfigError RuntimeConfig ←
    ExceptT.lift (RuntimeConfig.load around args.config)
  let config ← configured loaded
  let stores ← configured config.providers
  let registry := Registry.builtins.registerProviders stores
  match args.command with
  | .schema => return outputOf registry.describe
  | .entities => return String.join (registry.entityNames.map fun name => name ++ "\n")
  | command =>
    match args.model.or config.modelPath with
    | none => throw "no model given; pass --model or set model_path in the configuration"
    | some path =>
      let model ← loadModelFor around path (args.environment.getD config.environment)
      onModel around ⟨registry, model, around.transport⟩ stores command

/-- The name and version of the program. -/
def versionText : String := "nodeflow 0.1.0\n"

/-- How the program is used. -/
def helpText : String :=
  "Usage: nodeflow [--config FILE] [--model FILE] [--environment NAME] COMMAND\n\n" ++
    "Commands:\n  run NODE\n  invoke ENDPOINT [--method METHOD]\n  request METHOD PATH\n" ++
    "  schema\n  entities\n\n" ++
    "Inputs:\n  --context JSON or @FILE\n  --claim TYPE=VALUE\n"

/-- Carries out a command line. -/
def execute {m : Type → Type} [Monad m] (around : Surroundings m) (args : List String) :
    m Report := do
  match Arguments.read args with
  | .error .version => return { code := 0, output := versionText }
  | .error .help => return { code := 0, output := helpText }
  | .error .misuse => return { code := 2, error := some helpText }
  | .ok args =>
    match ← (perform around args).run with
    | .ok output => return { code := 0, output }
    | .error message => return { code := 1, error := some ("Error: " ++ message) }

end Flowgraph.CommandLine
