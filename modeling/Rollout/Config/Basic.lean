import Rollout.Environment
import Rollout.Graph.Settings

/-! The configuration of a platform, and the settings that it yields. -/

namespace Rollout

inductive EnvValue where
  | literal (text : String)
  | fromEnv (var : String) (default : Option String)
  deriving DecidableEq

namespace EnvValue

def resolve (env : Environment) : EnvValue → Except String String
  | literal text => .ok text
  | fromEnv var default =>
    match (env.get? var).or default with
    | some value => .ok value
    | none => .error var

end EnvValue

structure Config where
  lifecycleBundles : Dictionary String
  fileServerUrl : Option String
  imageDeliveryMode : DeliveryMode
  defaultAppPort : UInt16
  credhubUrl : Option EnvValue
  interpolateServiceBindings : Bool
  maxRetainedPerApp : Nat
  deriving DecidableEq

inductive ConfigError where
  | alreadyExists (path : String)
  | notFound (folder : String)
  | missingEnvVar (name : String)
  | invalid (reason : String)
  | actionGraph (error : ActionGraphError)
  | io
  | yaml
  deriving DecidableEq

namespace ConfigError

/-- The message, without what the readers of files and documents would add to it. -/
def message : ConfigError → String
  | alreadyExists path => "file already exists: " ++ path
  | notFound folder => "configuration file not found in " ++ folder
  | missingEnvVar name => "missing required environment variable: " ++ name
  | invalid reason => "invalid configuration: " ++ reason
  | actionGraph error => "cannot build action graph: " ++ error.message
  | io => "I/O error"
  | yaml => "YAML parse error"

end ConfigError

namespace Config

def defaultPort : UInt16 := 8080

def defaultRetained : Nat := 100

def template : Config where
  lifecycleBundles := .ofList [
    ("buildpack/cflinuxfs4", "buildpack_app_lifecycle/buildpack_app_lifecycle.tgz"),
    ("docker", "docker_app_lifecycle/docker_app_lifecycle.tgz")]
  fileServerUrl := some "http://file-server.service.cf.internal:8080"
  imageDeliveryMode := .unset
  defaultAppPort := defaultPort
  credhubUrl := none
  interpolateServiceBindings := false
  maxRetainedPerApp := defaultRetained

variable (urls : UrlParser)

/-- The normal form of a file server's URL. -/
def parseFileServer (text : String) : Except ConfigError String :=
  (urls.parse text).mapError fun reason => .invalid ("file_server_url " ++ text ++ ": " ++ reason)

def fileServer (c : Config) : Except ConfigError (Option String) :=
  match c.fileServerUrl with
  | some text => (parseFileServer urls text).map some
  | none => .ok none

def credhub (c : Config) (env : Environment) : Except ConfigError (Option String) :=
  match c.credhubUrl with
  | some value => ((value.resolve env).map some).mapError .missingEnvVar
  | none => .ok none

def bundles (c : Config) (fileServer : Option String) : Except ConfigError LifecycleBundles :=
  let bundles : LifecycleBundles := ⟨c.lifecycleBundles, fileServer, urls⟩
  match bundles.entries with
  | .ok _ => .ok bundles
  | .error e => .error (.invalid e.message)

/-- The settings, all of whose bundles have a location. -/
def settings (c : Config) (env : Environment) : Except ConfigError SchedulerSettings := do
  let bundles ← c.bundles urls (← c.fileServer urls)
  let credhub ← c.credhub env
  return {
    lifecycleBundles := bundles
    deliveryMode := c.imageDeliveryMode
    defaultAppPort := c.defaultAppPort
    credhubUrl := credhub
    interpolateServiceBindings := c.interpolateServiceBindings }

end Config

end Rollout
