import Rollout.Record.Deployment
import Rollout.Record.AppProcess
import Rollout.Record.RouteMapping
import Rollout.Store.Listing

/-!
The records of a control plane. A change either is made as a whole or is refused and leaves the
tables as they were.
-/

namespace Rollout

inductive StoreError where
  | appNotFound (guid : String)
  | deploymentNotFound (guid : String)
  | duplicate (record : String)
  | unavailable (reason : String)
  deriving DecidableEq

namespace StoreError

def message : StoreError → String
  | appNotFound guid => "app not found: " ++ guid
  | deploymentNotFound guid => "deployment not found: " ++ guid
  | duplicate record => "record already exists: " ++ record
  | unavailable reason => "store unavailable: " ++ reason

end StoreError

/-- Rows stand in the order of their insertion. -/
structure Tables where
  apps : List App
  droplets : List Droplet
  revisions : List Revision
  processes : List AppProcess
  routeMappings : List RouteMapping
  deployments : List Deployment
  historicalProcesses : List HistoricalProcess
  deriving DecidableEq

namespace Tables

def empty : Tables := ⟨[], [], [], [], [], [], []⟩

def app? (t : Tables) (guid : AppGuid) : Option App := t.apps.find? (·.guid = guid)

def droplet? (t : Tables) (guid : DropletGuid) : Option Droplet := t.droplets.find? (·.guid = guid)

def process? (t : Tables) (guid : ProcessGuid) : Option AppProcess :=
  t.processes.find? (·.guid = guid)

def deployment? (t : Tables) (guid : DeploymentGuid) : Option Deployment :=
  t.deployments.find? (·.guid = guid)

def appGuids (t : Tables) : List AppGuid := t.apps.map (·.guid)

def revisionsOf (t : Tables) (app : AppGuid) : List Revision :=
  sortByCreation (·.createdAt) (t.revisions.filter (·.app = app))

def processesOf (t : Tables) (app : AppGuid) : List AppProcess :=
  sortByCreation (·.createdAt) (t.processes.filter (·.app = app))

def mappingsOf (t : Tables) (process : ProcessGuid) : List RouteMapping :=
  sortByCreation (·.createdAt) (t.routeMappings.filter (·.process = process))

def deploymentsOf (t : Tables) (app : AppGuid) : List Deployment :=
  sortByCreation (·.createdAt) (t.deployments.filter (·.app = app))

def historyOf (t : Tables) (deployment : DeploymentGuid) : List HistoricalProcess :=
  t.historicalProcesses.filter (·.deployment = deployment)

def insertApp (t : Tables) (a : App) : Except StoreError Tables :=
  if t.apps.any (·.guid = a.guid) then .error (.duplicate ("app " ++ a.guid.text))
  else .ok { t with apps := t.apps ++ [a] }

def updateApp (t : Tables) (a : App) : Except StoreError Tables :=
  if t.apps.any (·.guid = a.guid) then
    .ok { t with apps := replaceFirst (·.guid = a.guid) a t.apps }
  else .error (.appNotFound a.guid.text)

def insertDroplet (t : Tables) (d : Droplet) : Except StoreError Tables :=
  if t.droplets.any (·.guid = d.guid) then .error (.duplicate ("droplet " ++ d.guid.text))
  else .ok { t with droplets := t.droplets ++ [d] }

def insertRevision (t : Tables) (r : Revision) : Except StoreError Tables :=
  if t.revisions.any (·.guid = r.guid) then .error (.duplicate ("revision " ++ r.guid.text))
  else .ok { t with revisions := t.revisions ++ [r] }

def insertProcess (t : Tables) (p : AppProcess) : Except StoreError Tables :=
  if t.processes.any (·.guid = p.guid) then .error (.duplicate ("process " ++ p.guid.text))
  else .ok { t with processes := t.processes ++ [p] }

/-- A route leads to a process at most once. -/
def insertMapping (t : Tables) (m : RouteMapping) : Except StoreError Tables :=
  if t.routeMappings.any fun n => n.guid = m.guid ∨ (n.route = m.route ∧ n.process = m.process) then
    .error (.duplicate ("route mapping " ++ m.route.text ++ " -> " ++ m.process.text))
  else .ok { t with routeMappings := t.routeMappings ++ [m] }

def insertDeployment (t : Tables) (d : Deployment) : Except StoreError Tables :=
  if t.deployments.any (·.guid = d.guid) then .error (.duplicate ("deployment " ++ d.guid.text))
  else .ok { t with deployments := t.deployments ++ [d] }

def updateDeployment (t : Tables) (d : Deployment) : Except StoreError Tables :=
  if t.deployments.any (·.guid = d.guid) then
    .ok { t with deployments := replaceFirst (·.guid = d.guid) d t.deployments }
  else .error (.deploymentNotFound d.guid.text)

def insertHistory (t : Tables) (h : HistoricalProcess) : Except StoreError Tables :=
  if t.deployments.any (·.guid = h.deployment) then
    .ok { t with historicalProcesses := t.historicalProcesses ++ [h] }
  else .error (.deploymentNotFound h.deployment.text)

end Tables

/-- All that the tables say of one app. -/
structure AppView where
  app : Option App
  revisions : List Revision
  processes : List AppProcess
  mappings : List (List RouteMapping)
  deployments : List Deployment
  histories : List (List HistoricalProcess)
  deriving DecidableEq

namespace Tables

def view (t : Tables) (app : AppGuid) : AppView where
  app := t.app? app
  revisions := t.revisionsOf app
  processes := t.processesOf app
  mappings := (t.processesOf app).map fun p => t.mappingsOf p.guid
  deployments := t.deploymentsOf app
  histories := (t.deploymentsOf app).map fun d => t.historyOf d.guid

end Tables

end Rollout
