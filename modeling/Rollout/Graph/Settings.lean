import Rollout.Delivery
import Rollout.Graph.Action
import Rollout.Json.Writer
import Rollout.Lifecycle
import Rollout.Ports

/-! What a platform sets for all its action graphs, and how a graph is put together. -/

namespace Rollout

structure SchedulerSettings where
  lifecycleBundles : LifecycleBundles
  deliveryMode : DeliveryMode
  defaultAppPort : UInt16
  credhubUrl : Option String
  interpolateServiceBindings : Bool

namespace SchedulerSettings

/-- The credential broker for the workload, if there is one and bindings are interpolated. -/
def platformOptions (s : SchedulerSettings) : Option EnvironmentVariable :=
  match nonempty? s.credhubUrl with
  | some url =>
    if s.interpolateServiceBindings then
      some ⟨"VCAP_PLATFORM_OPTIONS", Json.compact (.object [("credhub-uri", .string url)])⟩
    else none
  | none => none

end SchedulerSettings

inductive ActionGraphError where
  | lifecycle (error : LifecycleError)
  | ports (error : PortError)
  | metadata (error : MetadataError)
  deriving DecidableEq

namespace ActionGraphError

inductive Kind where
  | invalidStack
  | missingFileServer
  | noTcpPorts
  | invalidMetadata
  deriving DecidableEq

def kind : ActionGraphError → Kind
  | lifecycle (.invalidStack _) => .invalidStack
  | lifecycle (.noFileServer _) => .missingFileServer
  | ports .noTcpPorts => .noTcpPorts
  | metadata _ => .invalidMetadata

def message : ActionGraphError → String
  | lifecycle error => "lifecycle bundle resolution failed: " ++ error.message
  | ports error => "port resolution failed: " ++ error.message
  | metadata _ => "execution metadata rejected: invalid execution metadata"

end ActionGraphError

/-- The pieces of an action graph, each of which may fail on its own. -/
structure GraphParts where
  action : Except ActionGraphError Action
  imageLayers : Except ActionGraphError (Option (List ImageLayer))
  cachedDependencies : Except ActionGraphError (Option (List CachedDependency))
  environmentVariables : Except ActionGraphError (List EnvironmentVariable)

namespace GraphParts

def build (parts : GraphParts) : Except ActionGraphError ActionGraph := do
  let action ← parts.action
  let imageLayers ← parts.imageLayers
  let cachedDependencies ← parts.cachedDependencies
  let environmentVariables ← parts.environmentVariables
  return ⟨action, imageLayers, cachedDependencies, environmentVariables⟩

end GraphParts

def lifecycleDestination : String := "/tmp/lifecycle"

def launcherPath : String := "/tmp/lifecycle/launcher"

end Rollout
