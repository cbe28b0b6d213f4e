import Rollout.Command.Arguments
import Rollout.Config.Discovery

/-! What the commands do. -/

namespace Rollout.Command

structure Effect where
  output : String
  written : Option (String × String)
  deriving DecidableEq

/-- Where a program runs: its URLs, its variables, its files and the name of its folder. -/
structure Surroundings where
  urls : UrlParser
  env : Environment
  files : Files
  folder : String

namespace Surroundings

def loadConfig (s : Surroundings) (path : Option String) : Except ConfigError Config :=
  match path with
  | some path => Config.load s.files path
  | none => Config.discover s.files s.folder

def readText (s : Surroundings) (path : String) : Except ConfigError String :=
  match s.files path with
  | .text content => .ok content
  | _ => .error .io

/-- Lists the settings and the location of every bundle, of which there have to be some. -/
def check (s : Surroundings) (config : Config) : Except ConfigError String := do
  let settings ← config.settings s.urls s.env
  if settings.lifecycleBundles.bundles.isEmpty then
    throw (.invalid "no lifecycle bundles configured")
  let entries ← settings.lifecycleBundles.entries.mapError fun e => .invalid e.message
  let lines := [
    "Image delivery: " ++ settings.deliveryMode.text,
    "Default app port: " ++ toString settings.defaultAppPort.toNat,
    "Platform options: " ++ (if settings.platformOptions.isSome then "enabled" else "disabled"),
    "Deployments retained per app: " ++ toString config.maxRetainedPerApp] ++
    entries.map fun (key, uri) => "Lifecycle " ++ key ++ ": " ++ uri
  return String.join (lines.map (· ++ "\n"))

def planTask (s : Surroundings) (config : Config) (file : String) :
    Except ConfigError ActionGraph := do
  let settings ← config.settings s.urls s.env
  match TaskWorkload.parseYaml? (← s.readText file) with
  | none => throw .yaml
  | some workload => (workload.task.build settings workload.environment).mapError .actionGraph

def planLrp (s : Surroundings) (config : Config) (file : String) :
    Except ConfigError ActionGraph := do
  let settings ← config.settings s.urls s.env
  match ContainerSpec.parseYaml? (← s.readText file) with
  | none => throw .yaml
  | some spec => (spec.build settings).mapError .actionGraph

def printed (graph : ActionGraph) : Effect := ⟨graph.toJson.pretty ++ "\n", none⟩

def invoke (s : Surroundings) (i : Invocation) : Except ConfigError Effect := do
  match i.action with
  | .init url force =>
    let text ← Config.init s.urls s.files s.folder url force
    return ⟨"Created " ++ Config.fileName ++ "\n", some (Config.fileName, text)⟩
  | .check => return ⟨← s.check (← s.loadConfig i.config), none⟩
  | .planTask file => return printed (← s.planTask (← s.loadConfig i.config) file)
  | .planLrp file => return printed (← s.planLrp (← s.loadConfig i.config) file)

end Surroundings

inductive Outcome where
  | done (effect : Effect)
  | failed (line : String)
  | misused
  deriving DecidableEq

namespace Outcome

def exitCode : Outcome → UInt8
  | done _ => 0
  | failed _ => 1
  | misused => 2

end Outcome

def run (s : Surroundings) (args : List String) : Outcome :=
  match parse args with
  | none => .misused
  | some .version => .done ⟨"capstan 0.1.0\n", none⟩
  | some .help => .done ⟨"", none⟩
  | some (.invoke i) =>
    match s.invoke i with
    | .ok effect => .done effect
    | .error e => .failed ("Error: " ++ e.message)

end Rollout.Command
