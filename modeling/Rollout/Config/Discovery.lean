import Rollout.Config.Document
import Rollout.Folder

/-! Where a configuration is found, and the first configuration of a folder. -/

namespace Rollout.Config

def fileName : String := "capstan.yml"

def fileNames : List String := [fileName, "capstan.yaml", ".capstan/config.yml"]

def load (files : Files) (path : String) : Except ConfigError Config :=
  match files path with
  | .text content => parse content
  | _ => .error .io

/-- The first configuration that is there, also if it cannot be read. -/
def discover (files : Files) (folder : String) : Except ConfigError Config :=
  match fileNames.find? fun name => files name ≠ .missing with
  | some name => load files name
  | none => .error (.notFound folder)

def text (c : Config) : String :=
  "lifecycle_bundles:\n" ++
  String.join (c.lifecycleBundles.entries.map fun (key, path) =>
    "  " ++ key ++ ": " ++ path ++ "\n") ++
  "file_server_url: " ++ c.fileServerUrl.getD "" ++ "\n" ++
  "# Set to \"oci-phase-1\" to deliver droplets and lifecycles as image layers\n" ++
  "# image_delivery_mode: \"\"\n" ++
  "default_app_port: " ++ toString c.defaultAppPort.toNat ++ "\n" ++
  "# credhub_api:\n" ++
  "#   internal_url:\n" ++
  "#     env: CREDHUB_INTERNAL_URL\n" ++
  "credential_references:\n" ++
  "  interpolate_service_bindings: " ++
  (if c.interpolateServiceBindings then "true" else "false") ++ "\n" ++
  "deployments:\n" ++
  "  max_retained_per_app: " ++ toString c.maxRetainedPerApp ++ "\n"

variable (urls : UrlParser)

def initial (url : Option String) : Except ConfigError Config :=
  match url with
  | none => .ok template
  | some url => (parseFileServer urls url).map fun _ => { template with fileServerUrl := some url }

/-- The text to write for a new configuration. An old one is only replaced by force. -/
def init (files : Files) (folder : String) (url : Option String) (force : Bool) :
    Except ConfigError String := do
  if files fileName ≠ .missing ∧ !force then throw (.alreadyExists (folder ++ "/" ++ fileName))
  let config ← initial urls url
  if files fileName = .folder then throw .io
  return config.text

end Rollout.Config

namespace Rollout.Folder

/-- Writes a new configuration into the folder, which messages call `path`. -/
def init (urls : UrlParser) (f : Folder) (path : String) (url : Option String) (force : Bool) :
    Except ConfigError Folder :=
  (Config.init urls f.status path url force).map (f.write Config.fileName)

end Rollout.Folder
