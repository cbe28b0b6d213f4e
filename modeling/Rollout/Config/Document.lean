import Rollout.Config.Basic
import Rollout.Graph.Container
import Rollout.Graph.Task
import Rollout.Yaml.Content

/-! Configurations and workloads out of YAML. -/

namespace Rollout

open Yaml

namespace EnvValue

/-- A field of a reference to a variable: a name, or the number of one. -/
def fieldName? : Content → Option (Option String)
  | .text "env" => some (some "env")
  | .text "default" => some (some "default")
  | .text _ => some none
  | .nat 0 => some (some "env")
  | .nat 1 => some (some "default")
  | .nat _ => some none
  | _ => none

def ofContent? : Content → Option EnvValue
  | .text s => some (.literal s)
  | .mapping entries => do
    let named ← entries.mapM fun (key, value) => (fieldName? key).map (·, value)
    let known := named.filterMap fun (name, value) => name.map (·, value)
    if (known.map (·.1)).Nodup then
      let var ← (known.lookup "env").bind Content.text?
      match known.lookup "default" with
      | some value => return .fromEnv var (← value.optionalText?)
      | none => return .fromEnv var none
    else none
  | _ => none

end EnvValue

namespace Config

def modeOfNode? (d : Document) (n : Node) : Option DeliveryMode := do
  match ← d.optional? d.text? n with
  | some text => DeliveryMode.ofText? text
  | none => some .unset

/-- A table of texts by keys; of two entries with one key the later counts. -/
def tableOfNode? (d : Document) (n : Node) : Option (Dictionary String) := do
  let named ← d.named? (← d.entries? n)
  let texts ← named.mapM fun (key, value) => (d.text? value).map (key, ·)
  return .ofList texts

def inner? {α : Type} (d : Document) (name : String) (value : Option α)
    (read : Node → Option α) (n : Node) : Option α := do
  let fields ← d.fields? [name] (← d.entries? n)
  match fields.lookup name with
  | some n => read n
  | none => value

def depth : Nat := 128

def credhubOfNode? (d : Document) (n : Node) : Option EnvValue :=
  inner? d "internal_url" none (fun n => (d.content? (depth - 2) n).bind EnvValue.ofContent?) n

def fieldNames : List String := [
  "lifecycle_bundles", "file_server_url", "image_delivery_mode", "default_app_port",
  "credhub_api", "credential_references", "deployments"]

def ofDocument? (d : Document) : Option Config := do
  let fields ← d.fields? fieldNames (← d.rootEntries?)
  return {
    lifecycleBundles := ← withDefault fields "lifecycle_bundles" .empty (tableOfNode? d)
    fileServerUrl := ← withDefault fields "file_server_url" none (d.optional? d.text?)
    imageDeliveryMode := ← withDefault fields "image_delivery_mode" .unset (modeOfNode? d)
    defaultAppPort := ← withDefault fields "default_app_port" defaultPort d.uint16?
    credhubUrl := ← withDefault fields "credhub_api" none (d.optional? (credhubOfNode? d))
    interpolateServiceBindings := ← withDefault fields "credential_references" false
      (inner? d "interpolate_service_bindings" (some false) d.bool?)
    maxRetainedPerApp := ← withDefault fields "deployments" defaultRetained
      (inner? d "max_retained_per_app" (some defaultRetained) (d.natBelow? UInt64.size)) }

def parse (text : String) : Except ConfigError Config :=
  match (Yaml.parse? text).bind ofDocument? with
  | some config => .ok config
  | none => .error .yaml

end Config

namespace EnvironmentVariable

def ofNode? (d : Document) (n : Node) : Option EnvironmentVariable := do
  let fields ← d.fields? ["name", "value"] (← d.entries? n)
  return ⟨← need fields "name" d.text?, ← need fields "value" d.text?⟩

end EnvironmentVariable

namespace ContainerSpec

def imageOfNode? (d : Document) (n : Node) : Option ImageRef :=
  (d.text? n).bind fun text => (ImageRef.parse text).toOption

def ofDocument? (d : Document) : Option ContainerSpec := do
  let fields ← d.fields? fieldNames (← d.rootEntries?)
  return {
    image := ← need fields "docker_image" (imageOfNode? d)
    startCommand := ← need fields "start_command" d.text?
    executionMetadata := ← withDefault fields "execution_metadata" "" d.text?
    ports := ← withDefault fields "ports" [] (d.list? d.uint16?)
    fileDescriptors := ← withDefault fields "file_descriptors" none (d.optional? d.uint64?)
    environment := ← withDefault fields "environment" []
      (d.list? (EnvironmentVariable.ofNode? d)) }

def parseYaml? (text : String) : Option ContainerSpec := (Yaml.parse? text).bind ofDocument?

end ContainerSpec

namespace TaskSpec

def ofDocument? (d : Document) : Option TaskSpec := do
  let fields ← d.fields? fieldNames (← d.rootEntries?)
  return {
    name := ← need fields "name" d.text?
    command := ← need fields "command" d.text?
    dropletUri := ← need fields "droplet_uri" d.text?
    stack := ← need fields "stack" d.text?
    sha256Checksum := ← withDefault fields "sha256_checksum" none (d.optional? d.text?)
    dropletHash := ← withDefault fields "droplet_hash" none (d.optional? d.text?) }

def parseYaml? (text : String) : Option TaskSpec := (Yaml.parse? text).bind ofDocument?

end TaskSpec

/--
A task with the environment that it runs in, as a file holds it. The fields of the task are text
that reads as no other value.
-/
structure TaskWorkload where
  task : TaskSpec
  environment : List EnvironmentVariable
  deriving DecidableEq

namespace TaskWorkload

def taskOfFields? (fields : List (String × Content)) : Option TaskSpec := do
  let known := fields.filter fun f => TaskSpec.fieldNames.contains f.1
  if (known.map (·.1)).Nodup then
    let text := fun name => (known.lookup name).bind Content.text?
    let optional := fun name => match known.lookup name with
      | some value => value.optionalText?
      | none => some none
    return {
      name := ← text "name"
      command := ← text "command"
      dropletUri := ← text "droplet_uri"
      stack := ← text "stack"
      sha256Checksum := ← optional "sha256_checksum"
      dropletHash := ← optional "droplet_hash" }
  else none

def ofDocument? (d : Document) : Option TaskWorkload := do
  let named ← d.named? (← d.rootEntries?)
  let environments := named.filter (·.1 = "environment")
  let others := named.filter (·.1 ≠ "environment")
  let environment ← match environments with
    | [] => some []
    | [(_, n)] => d.list? (EnvironmentVariable.ofNode? d) n
    | _ => none
  let fields ← others.mapM fun (name, n) => (d.content? (Config.depth - 1) n).map (name, ·)
  return ⟨← taskOfFields? fields, environment⟩

def parseYaml? (text : String) : Option TaskWorkload := (Yaml.parse? text).bind ofDocument?

end TaskWorkload

end Rollout
