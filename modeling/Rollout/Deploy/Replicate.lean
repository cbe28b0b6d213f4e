import Rollout.Record.Deployment
import Rollout.Record.AppProcess

/-! The shadow process of a rollout. -/

namespace Rollout.AppProcess

/-- A started process of one instance that otherwise runs as `source` does. -/
def replicate (source : AppProcess) (deployment : Deployment) (guid : ProcessGuid)
    (time : Instant) : AppProcess :=
  { source with
    guid
    type := .deployingWeb
    state := .started
    instances := 1
    revision := deployment.revision.map (·.guid)
    deployment := some deployment.guid
    createdAt := time
    updatedAt := time }

end Rollout.AppProcess
