import Rollout.Graph.Settings
import Rollout.Record.App

/-! One-off tasks that run a droplet. -/

namespace Rollout

structure TaskSpec where
  name : String
  command : String
  dropletUri : String
  stack : String
  sha256Checksum : Option String
  dropletHash : Option String
  deriving DecidableEq

namespace TaskSpec

/-- A task that runs `droplet` and is verified by the checksums of it. -/
def forDroplet (name command : String) (droplet : Droplet) (dropletUri stack : String) :
    TaskSpec :=
  ⟨name, command, dropletUri, stack, droplet.sha256Checksum, droplet.dropletHash⟩

def fieldNames : List String :=
  ["name", "command", "droplet_uri", "stack", "sha256_checksum", "droplet_hash"]

def ofJson? (j : Json) : Option TaskSpec := do
  let fields ← Json.fields? fieldNames j
  return {
    name := ← fields.need "name" Json.text?
    command := ← fields.need "command" Json.text?
    dropletUri := ← fields.need "droplet_uri" Json.text?
    stack := ← fields.need "stack" Json.text?
    sha256Checksum := ← fields.optional "sha256_checksum" Json.text?
    dropletHash := ← fields.optional "droplet_hash" Json.text? }

def checksum (t : TaskSpec) : Option Checksum := Checksum.select t.sha256Checksum t.dropletHash

/-- The droplet is a layer only under a strong checksum. -/
def delivery (t : TaskSpec) (settings : SchedulerSettings) : Delivery :=
  .select settings.deliveryMode (t.checksum.any Checksum.isStrong)

def rootFs (t : TaskSpec) : String := "preloaded:" ++ t.stack

def lifecycleUri (t : TaskSpec) (settings : SchedulerSettings) : Except ActionGraphError String :=
  (settings.lifecycleBundles.resolve .buildpack (some t.stack)).mapError .lifecycle

def cacheKey (t : TaskSpec) : String := LifecycleType.buildpack.cacheKey (some t.stack)

def user : String := "vcap"

def runAction (t : TaskSpec) (environment : List EnvironmentVariable) : Action :=
  .run {
    path := launcherPath
    args := ["app", t.command, ""]
    logSource := "APP/TASK/" ++ t.name
    user := user
    resourceLimits := ⟨none⟩
    env := environment }

def downloadDroplet (t : TaskSpec) : Action :=
  .download <| DownloadAction.withChecksum ⟨t.dropletUri, ".", "", user, none, none⟩ t.checksum

def action (t : TaskSpec) (settings : SchedulerSettings) (environment : List EnvironmentVariable) :
    Action :=
  match t.delivery settings with
  | .download => .serial [t.downloadDroplet, t.runAction environment]
  | .layered => t.runAction environment

def imageLayers (t : TaskSpec) (settings : SchedulerSettings) :
    Except ActionGraphError (Option (List ImageLayer)) :=
  match t.delivery settings with
  | .download => .ok none
  | .layered => do
    let uri ← t.lifecycleUri settings
    return some [
      .shared t.cacheKey uri lifecycleDestination,
      (ImageLayer.exclusive "droplet" t.dropletUri "/home/vcap").withSha256
        (t.checksum.map (·.value))]

def cachedDependencies (t : TaskSpec) (settings : SchedulerSettings) :
    Except ActionGraphError (Option (List CachedDependency)) :=
  match t.delivery settings with
  | .download => do return some [⟨← t.lifecycleUri settings, lifecycleDestination, t.cacheKey⟩]
  | .layered => .ok none

def parts (t : TaskSpec) (settings : SchedulerSettings) (environment : List EnvironmentVariable) :
    GraphParts where
  action := .ok (t.action settings environment)
  imageLayers := t.imageLayers settings
  cachedDependencies := t.cachedDependencies settings
  environmentVariables := .ok environment

def build (t : TaskSpec) (settings : SchedulerSettings) (environment : List EnvironmentVariable) :
    Except ActionGraphError ActionGraph :=
  (t.parts settings environment).build

end TaskSpec

end Rollout
