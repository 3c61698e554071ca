import Flowgraph.Config.Basic
import Flowgraph.Config.Path
/-!
# Loading configurations

A configuration file that does not exist stands for the default configuration. A file that cannot
be used is an error if it was asked for, and passed over otherwise.

Main definitions: `RuntimeConfig.ofFile`, `Surroundings`, `Surroundings.defaultConfigPath`,
`RuntimeConfig.load`.
-/

namespace Flowgraph

/-- What the command line finds around it. -/
structure Surroundings (m : Type → Type) where
  read : String → m FileContent
  home : Option String
  /-- The directory of configurations. -/
  configDirectory : Option String
  /-- The configuration file that the environment asks for. -/
  configPath : Option String
  transport : Request → Except String Value

/-- The configuration file when none is asked for on the command line. -/
def Surroundings.defaultConfigPath {m : Type → Type} (around : Surroundings m) : String :=
  match around.configPath.filter fun path => !Text.isBlankText path with
  | some path => Path.expandHome around.home path
  | none => Path.join (Path.join (around.configDirectory.getD ".") "nodeflow") "runtime.json"

namespace RuntimeConfig

/-- The configuration of a file; there is none in a file that does not exist. -/
def ofFile (path : String) : FileContent → Except ConfigError (Option RuntimeConfig)
  | .missing => .ok none
  | .unreadable reason => .error (.unreadable path reason)
  | .text content =>
    match (Path.readDocument? shape path content).bind decode? with
    | some config => .ok (some config)
    | none => .error (.malformed (if Path.isYaml path then "YAML" else "JSON") path)

/-- The configuration of the file that is asked for, else of the default one. -/
def load {m : Type → Type} [Monad m] (around : Surroundings m) (explicit : Option String) :
    m (Except ConfigError RuntimeConfig) := do
  match explicit with
  | some path => return (ofFile path (← around.read path)).map fun config => config.getD {}
  | none =>
    let path := around.defaultConfigPath
    match ofFile path (← around.read path) with
    | .ok config => return .ok (config.getD {})
    | .error _ => return .ok {}

end RuntimeConfig

end Flowgraph
