import Rollout.Deploy.Replicate
import Rollout.Deploy.Revisions
import Rollout.Deploy.Routes

/-! Rollouts: a shadow of the web process takes its routes, and rollouts in flight end. -/

namespace Rollout

/-- The fresh guids and the readings of the clock that one creation takes. -/
structure CreateDraws where
  deploymentGuid : DeploymentGuid
  time : Instant
  processGuid : ProcessGuid
  processTime : Instant
  mappings : MappingDraws
  auditTime : Instant

namespace Deployment

def assignableDroplet (app : App) (droplet : Option DropletGuid) : Tx DeployError Droplet := do
  match droplet with
  | none => throw .setCurrentDroplet
  | some guid =>
    match ← Tx.ask (·.droplet? guid) with
    | some d => if d.app = app.guid then return d else throw .setCurrentDroplet
    | none => throw .setCurrentDroplet

/-- The oldest process of the type `web`; the shadows of rollouts are not. -/
def oldestWebProcess (app : App) : Tx DeployError AppProcess := do
  match (← Tx.ask (·.processesOf app.guid)).find? (·.type.isWeb) with
  | some p => return p
  | none => throw (.noWebProcess app.guid.text)

def supersede (time : Instant) : List Deployment → Tx DeployError Unit
  | [] => pure ()
  | d :: deployments => do
    Tx.change .store (·.updateDeployment { d with state := .deployed, updatedAt := time })
    supersede time deployments

def createIn (draws : CreateDraws) (revisions : RevisionCreator) (appGuid : AppGuid)
    (dropletGuid : Option DropletGuid) (user : UserAuditInfo) :
    Tx DeployError (Deployment × AuditEvent) := do
  let app ← Tx.app .store appGuid
  let droplet ← assignableDroplet app dropletGuid
  let previousDroplet := app.droplet
  let app := { app with droplet := some droplet.guid }
  Tx.change .store (·.updateApp app)
  let web ← oldestWebProcess app
  let inFlight := (← Tx.ask (·.deploymentsOf app.guid)).filter isDeploying
  let originalInstances :=
    (inFlight.getLast?.map (·.originalWebProcessInstanceCount)).getD web.instances
  let revision ← revisions app droplet
  let deployment : Deployment := {
    guid := draws.deploymentGuid
    app := app.guid
    droplet := some droplet.guid
    previousDroplet
    state := .deploying
    deployingWebProcess := some draws.processGuid
    originalWebProcessInstanceCount := originalInstances
    revision := some ⟨revision.guid, revision.version⟩
    createdAt := draws.time
    updatedAt := draws.time }
  let shadow := web.replicate deployment draws.processGuid draws.processTime
  Tx.change .store (·.insertProcess shadow)
  let _ ← (RouteMapping.carryOver draws.mappings web.guid shadow.guid).mapError .store
  supersede draws.time inFlight
  Tx.change .store (·.insertDeployment deployment)
  Tx.change .store (·.insertHistory ⟨deployment.guid, shadow.guid, shadow.label, draws.time⟩)
  let metadata := .ofList
    [("droplet_guid", droplet.guid.text), ("deployment_guid", deployment.guid.text)]
  return (deployment, .forApp AuditEvent.deploymentCreate user app metadata draws.auditTime)

/--
Rolls out a droplet. Its writes come into force together, once the event has been recorded; what
the sink keeps of an event that it refuses is its own affair.
-/
def create {σ : Type} (store : Store) (sink : AuditSink σ) (log : σ) (draws : CreateDraws)
    (revisions : RevisionCreator) (app : AppGuid) (droplet : Option DropletGuid)
    (user : UserAuditInfo) : Except DeployError Deployment × Store × σ :=
  match store.transaction .store (createIn draws revisions app droplet user) with
  | (.error e, _) => (.error e, store, log)
  | (.ok (deployment, event), written) =>
    match sink event log with
    | (.error e, log) => (.error (.audit e), store, log)
    | (.ok (), log) => (.ok deployment, written, log)

end Deployment

end Rollout
