import Rollout.Store.Transaction

/-! The operations of a transaction, one by one, and their answers. -/

namespace Rollout

inductive Operation where
  | app (guid : AppGuid)
  | appGuids
  | insertApp (row : App)
  | updateApp (row : App)
  | droplet (guid : DropletGuid)
  | insertDroplet (row : Droplet)
  | revisions (app : AppGuid)
  | insertRevision (row : Revision)
  | process (guid : ProcessGuid)
  | processes (app : AppGuid)
  | insertProcess (row : AppProcess)
  | mappings (process : ProcessGuid)
  | insertMapping (row : RouteMapping)
  | deployment (guid : DeploymentGuid)
  | deployments (app : AppGuid)
  | insertDeployment (row : Deployment)
  | updateDeployment (row : Deployment)
  | deleteDeployment (guid : DeploymentGuid)
  | history (deployment : DeploymentGuid)
  | insertHistory (row : HistoricalProcess)

inductive Answer where
  | done
  | app (row : App)
  | appGuids (guids : List AppGuid)
  | droplet (row : Option Droplet)
  | revisions (rows : List Revision)
  | process (row : Option AppProcess)
  | processes (rows : List AppProcess)
  | mappings (rows : List RouteMapping)
  | deployment (row : Option Deployment)
  | deployments (rows : List Deployment)
  | history (rows : List HistoricalProcess)
  deriving DecidableEq

namespace Operation

def change (f : Tables → Except StoreError Tables) : Tx StoreError Answer := do
  Tx.change id f
  return .done

def run : Operation → Tx StoreError Answer
  | .app guid => return .app (← Tx.app id guid)
  | .appGuids => Tx.ask fun t => .appGuids t.appGuids
  | .insertApp row => change (·.insertApp row)
  | .updateApp row => change (·.updateApp row)
  | .droplet guid => Tx.ask fun t => .droplet (t.droplet? guid)
  | .insertDroplet row => change (·.insertDroplet row)
  | .revisions guid => Tx.ask fun t => .revisions (t.revisionsOf guid)
  | .insertRevision row => change (·.insertRevision row)
  | .process guid => Tx.ask fun t => .process (t.process? guid)
  | .processes guid => Tx.ask fun t => .processes (t.processesOf guid)
  | .insertProcess row => change (·.insertProcess row)
  | .mappings guid => Tx.ask fun t => .mappings (t.mappingsOf guid)
  | .insertMapping row => change (·.insertMapping row)
  | .deployment guid => Tx.ask fun t => .deployment (t.deployment? guid)
  | .deployments guid => Tx.ask fun t => .deployments (t.deploymentsOf guid)
  | .insertDeployment row => change (·.insertDeployment row)
  | .updateDeployment row => change (·.updateDeployment row)
  | .deleteDeployment guid => do
    Tx.deleteDeployment id guid
    return .done
  | .history guid => Tx.ask fun t => .history (t.historyOf guid)
  | .insertHistory row => change (·.insertHistory row)

end Operation

end Rollout
