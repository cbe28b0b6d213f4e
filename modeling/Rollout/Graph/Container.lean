import Rollout.Graph.Document
import Rollout.Graph.Settings
import Rollout.ImageRef

/-! Long-running web processes out of a container image. -/

namespace Rollout

/-- `executionMetadata` is the document that the staging of the image recorded. -/
structure ContainerSpec where
  image : ImageRef
  startCommand : String
  executionMetadata : String
  ports : List UInt16
  fileDescriptors : Option UInt64
  environment : List EnvironmentVariable
  deriving DecidableEq

namespace ContainerSpec

def fieldNames : List String := [
  "docker_image", "start_command", "execution_metadata", "ports", "file_descriptors",
  "environment"]

def imageOfJson? (j : Json) : Option ImageRef :=
  (Json.text? j).bind fun text => (ImageRef.parse text).toOption

def ofJson? (j : Json) : Option ContainerSpec := do
  let fields ← Json.fields? fieldNames j
  return {
    image := ← fields.need "docker_image" imageOfJson?
    startCommand := ← fields.need "start_command" Json.text?
    executionMetadata := ← fields.withDefault "execution_metadata" "" Json.text?
    ports := ← fields.withDefault "ports" [] (Json.list? Json.uint16?)
    fileDescriptors := ← fields.optional "file_descriptors" Json.uint64?
    environment :=
      ← fields.withDefault "environment" [] (Json.list? EnvironmentVariable.ofJson?) }

end ContainerSpec

/-- A container whose metadata has been read. -/
structure StagedContainer where
  spec : ContainerSpec
  metadata : ExecutionMetadata
  deriving DecidableEq

namespace ContainerSpec

def staged (spec : ContainerSpec) : Except ActionGraphError StagedContainer :=
  match ExecutionMetadata.parse spec.executionMetadata with
  | .ok metadata => .ok ⟨spec, metadata⟩
  | .error error => .error (.metadata error)

end ContainerSpec

namespace StagedContainer

/-- The registry verifies the image, so that it may be a layer in any case. -/
def delivery (_ : StagedContainer) (settings : SchedulerSettings) : Delivery :=
  .select settings.deliveryMode true

def rootFs (c : StagedContainer) : String := c.spec.image.uri

def user (c : StagedContainer) : String := (nonempty? c.metadata.user).getD "root"

def ports (c : StagedContainer) (settings : SchedulerSettings) : Except PortError (List UInt16) :=
  resolvePorts c.spec.ports c.metadata settings.defaultAppPort

/-- The main port, for the process to listen on. -/
def portVariables (c : StagedContainer) (settings : SchedulerSettings) :
    Except PortError (List EnvironmentVariable) :=
  (c.ports settings).map fun ports =>
    (ports.head?.map fun port => ⟨"PORT", toString port.toNat⟩).toList

def lifecycleUri (_ : StagedContainer) (settings : SchedulerSettings) :
    Except ActionGraphError String :=
  (settings.lifecycleBundles.resolve .docker none).mapError .lifecycle

def cacheKey : String := LifecycleType.docker.cacheKey none

def environmentVariables (c : StagedContainer) (settings : SchedulerSettings) :
    Except ActionGraphError (List EnvironmentVariable) :=
  ((c.portVariables settings).map fun found =>
    c.spec.environment ++ found ++ settings.platformOptions.toList).mapError .ports

def runAction (c : StagedContainer) (environment : List EnvironmentVariable) : Action :=
  .run {
    path := launcherPath
    args := ["app", c.spec.startCommand, c.spec.executionMetadata]
    logSource := "APP/PROC/WEB"
    user := c.user
    resourceLimits := ⟨c.spec.fileDescriptors⟩
    env := environment }

def downloadImage (c : StagedContainer) : Action :=
  .download ⟨c.rootFs, ".", "", c.user, none, none⟩

def action (c : StagedContainer) (settings : SchedulerSettings) :
    Except ActionGraphError Action :=
  (c.environmentVariables settings).map fun environment =>
    match c.delivery settings with
    | .download => .serial [c.downloadImage, c.runAction environment]
    | .layered => c.runAction environment

def imageLayers (c : StagedContainer) (settings : SchedulerSettings) :
    Except ActionGraphError (Option (List ImageLayer)) :=
  match c.delivery settings with
  | .download => .ok none
  | .layered => do
    let uri ← c.lifecycleUri settings
    return some [
      .shared cacheKey uri lifecycleDestination,
      (ImageLayer.exclusive "docker-image" c.rootFs "/").withSha256 c.spec.image.sha256?]

def cachedDependencies (c : StagedContainer) (settings : SchedulerSettings) :
    Except ActionGraphError (Option (List CachedDependency)) :=
  match c.delivery settings with
  | .download => do return some [⟨← c.lifecycleUri settings, lifecycleDestination, cacheKey⟩]
  | .layered => .ok none

def parts (c : StagedContainer) (settings : SchedulerSettings) : GraphParts where
  action := c.action settings
  imageLayers := c.imageLayers settings
  cachedDependencies := c.cachedDependencies settings
  environmentVariables := c.environmentVariables settings

end StagedContainer

namespace ContainerSpec

def build (spec : ContainerSpec) (settings : SchedulerSettings) :
    Except ActionGraphError ActionGraph := do
  let container ← spec.staged
  (container.parts settings).build

end ContainerSpec

end Rollout
