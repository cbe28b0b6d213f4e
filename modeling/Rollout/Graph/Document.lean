import Rollout.Graph.Action

/-! Action graphs in documents. What is absent is left out. -/

namespace Rollout

namespace EnvironmentVariable

def toJson (v : EnvironmentVariable) : Json :=
  .object [("name", .string v.name), ("value", .string v.value)]

def ofJson? (j : Json) : Option EnvironmentVariable := do
  let fields ← Json.fields? ["name", "value"] j
  return {
    name := ← fields.need "name" Json.text?
    value := ← fields.need "value" Json.text? }

end EnvironmentVariable

namespace ResourceLimits

def toJson (l : ResourceLimits) : Json :=
  .object (Json.member? "nofile" (l.nofile.map fun n => .nat n.toNat))

def ofJson? (j : Json) : Option ResourceLimits := do
  let fields ← Json.fields? ["nofile"] j
  return ⟨← fields.optional "nofile" Json.uint64?⟩

end ResourceLimits

namespace DownloadAction

def toJson (d : DownloadAction) : Json := .object <| [
  ("from", .string d.source),
  ("to", .string d.destination),
  ("cache_key", .string d.cacheKey),
  ("user", .string d.user)] ++
  Json.member? "checksum_algorithm" (d.checksumAlgorithm.map (·.toJson)) ++
  Json.member? "checksum_value" (d.checksumValue.map .string)

def ofJson? (j : Json) : Option DownloadAction := do
  let fields ← Json.fields?
    ["from", "to", "cache_key", "user", "checksum_algorithm", "checksum_value"] j
  return {
    source := ← fields.need "from" Json.text?
    destination := ← fields.need "to" Json.text?
    cacheKey := ← fields.need "cache_key" Json.text?
    user := ← fields.need "user" Json.text?
    checksumAlgorithm := ← fields.optional "checksum_algorithm" ChecksumAlgorithm.ofJson?
    checksumValue := ← fields.optional "checksum_value" Json.text? }

end DownloadAction

namespace RunAction

def toJson (r : RunAction) : Json := .object [
  ("path", .string r.path),
  ("args", .array (r.args.map .string)),
  ("log_source", .string r.logSource),
  ("user", .string r.user),
  ("resource_limits", r.resourceLimits.toJson),
  ("env", .array (r.env.map EnvironmentVariable.toJson))]

def ofJson? (j : Json) : Option RunAction := do
  let fields ← Json.fields? ["path", "args", "log_source", "user", "resource_limits", "env"] j
  return {
    path := ← fields.need "path" Json.text?
    args := ← fields.need "args" (Json.list? Json.text?)
    logSource := ← fields.need "log_source" Json.text?
    user := ← fields.need "user" Json.text?
    resourceLimits := ← fields.need "resource_limits" ResourceLimits.ofJson?
    env := ← fields.need "env" (Json.list? EnvironmentVariable.ofJson?) }

end RunAction

namespace Action

mutual

def toJson : Action → Json
  | .serial actions =>
    .object [("serial_action", .object [("actions", .array (toJsonSteps actions))])]
  | .download action => .object [("download_action", action.toJson)]
  | .run action => .object [("run_action", action.toJson)]

def toJsonSteps : List Action → List Json
  | [] => []
  | action :: actions => toJson action :: toJsonSteps actions

end

mutual

/-- An object whose one member names the kind of action. -/
def ofJson? : Json → Option Action
  | .object [(kind, value)] =>
    if kind = "serial_action" then (ofSerial? value).map .serial
    else if kind = "download_action" then (DownloadAction.ofJson? value).map .download
    else if kind = "run_action" then (RunAction.ofJson? value).map .run
    else none
  | _ => none

/-- The steps of a serial action: its member `actions`, or the one item of an array. -/
def ofSerial? : Json → Option (List Action)
  | .object members => ofMembers? none members
  | .array [actions] => ofSteps? actions
  | _ => none

/-- The steps of the members, given those that a member before them had. -/
def ofMembers? (actions : Option (List Action)) : List (String × Json) → Option (List Action)
  | [] => actions
  | (name, value) :: members =>
    if name = "actions" then
      match actions, ofSteps? value with
      | none, some actions => ofMembers? (some actions) members
      | _, _ => none
    else ofMembers? actions members

def ofSteps? : Json → Option (List Action)
  | .array items => ofItems? items
  | _ => none

def ofItems? : List Json → Option (List Action)
  | [] => some []
  | item :: items =>
    match ofJson? item, ofItems? items with
    | some action, some actions => some (action :: actions)
    | _, _ => none

end

end Action

namespace CachedDependency

def toJson (d : CachedDependency) : Json := .object [
  ("from", .string d.source),
  ("to", .string d.destination),
  ("cache_key", .string d.cacheKey)]

def ofJson? (j : Json) : Option CachedDependency := do
  let fields ← Json.fields? ["from", "to", "cache_key"] j
  return {
    source := ← fields.need "from" Json.text?
    destination := ← fields.need "to" Json.text?
    cacheKey := ← fields.need "cache_key" Json.text? }

end CachedDependency

namespace LayerType

def text : LayerType → String
  | shared => "SHARED"
  | exclusive => "EXCLUSIVE"

def ofJson? (j : Json) : Option LayerType := do
  match ← Json.word? j with
  | "SHARED" => some shared
  | "EXCLUSIVE" => some exclusive
  | _ => none

end LayerType

namespace MediaType

def text : MediaType → String
  | tgz => "TGZ"

def ofJson? (j : Json) : Option MediaType := do
  match ← Json.word? j with
  | "TGZ" => some tgz
  | _ => none

end MediaType

namespace DigestAlgorithm

def text : DigestAlgorithm → String
  | sha256 => "SHA256"

def ofJson? (j : Json) : Option DigestAlgorithm := do
  match ← Json.word? j with
  | "SHA256" => some sha256
  | _ => none

end DigestAlgorithm

namespace ImageLayer

def toJson (l : ImageLayer) : Json := .object <| [
  ("name", .string l.name),
  ("url", .string l.url),
  ("destination_path", .string l.destinationPath),
  ("layer_type", .string l.layerType.text),
  ("media_type", .string l.mediaType.text)] ++
  Json.member? "digest_algorithm" (l.digestAlgorithm.map (.string ·.text)) ++
  Json.member? "digest_value" (l.digestValue.map .string)

def ofJson? (j : Json) : Option ImageLayer := do
  let fields ← Json.fields? ["name", "url", "destination_path", "layer_type", "media_type",
    "digest_algorithm", "digest_value"] j
  return {
    name := ← fields.need "name" Json.text?
    url := ← fields.need "url" Json.text?
    destinationPath := ← fields.need "destination_path" Json.text?
    layerType := ← fields.need "layer_type" LayerType.ofJson?
    mediaType := ← fields.need "media_type" MediaType.ofJson?
    digestAlgorithm := ← fields.optional "digest_algorithm" DigestAlgorithm.ofJson?
    digestValue := ← fields.optional "digest_value" Json.text? }

end ImageLayer

namespace ActionGraph

def toJson (g : ActionGraph) : Json := .object <|
  ("action", g.action.toJson) ::
  Json.member? "image_layers" (g.imageLayers.map fun layers =>
    .array (layers.map ImageLayer.toJson)) ++
  Json.member? "cached_dependencies" (g.cachedDependencies.map fun dependencies =>
    .array (dependencies.map CachedDependency.toJson)) ++
  [("environment_variables", .array (g.environmentVariables.map EnvironmentVariable.toJson))]

def ofJson? (j : Json) : Option ActionGraph := do
  let fields ← Json.fields?
    ["action", "image_layers", "cached_dependencies", "environment_variables"] j
  return {
    action := ← fields.need "action" Action.ofJson?
    imageLayers := ← fields.optional "image_layers" (Json.list? ImageLayer.ofJson?)
    cachedDependencies :=
      ← fields.optional "cached_dependencies" (Json.list? CachedDependency.ofJson?)
    environmentVariables :=
      ← fields.need "environment_variables" (Json.list? EnvironmentVariable.ofJson?) }

end ActionGraph

end Rollout
