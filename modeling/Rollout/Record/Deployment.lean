import Rollout.Record.App

/-! Deployments, and the processes that took part in them. -/

namespace Rollout

inductive DeploymentState where
  | deploying
  | deployed
  | canceling
  | canceled
  deriving DecidableEq

namespace DeploymentState

/-- A rollout in flight is never pruned. -/
def isPrunable : DeploymentState → Bool
  | deploying => false
  | _ => true

def text : DeploymentState → String
  | deploying => "DEPLOYING"
  | deployed => "DEPLOYED"
  | canceling => "CANCELING"
  | canceled => "CANCELED"

def toJson (s : DeploymentState) : Json := .string s.text

def ofJson? (j : Json) : Option DeploymentState := do
  match ← Json.word? j with
  | "DEPLOYING" => some deploying
  | "DEPLOYED" => some deployed
  | "CANCELING" => some canceling
  | "CANCELED" => some canceled
  | _ => none

end DeploymentState

structure RevisionRef where
  guid : RevisionGuid
  version : UInt32
  deriving DecidableEq

namespace RevisionRef

def toJson (r : RevisionRef) : Json := .object [
  ("guid", r.guid.toJson),
  ("version", .nat r.version.toNat)]

def ofJson? (j : Json) : Option RevisionRef := do
  let fields ← Json.fields? ["guid", "version"] j
  return {
    guid := ← fields.need "guid" Guid.ofJson?
    version := ← fields.need "version" Json.uint32? }

end RevisionRef

/--
The instance count is that of the web process which the first of a row of rollouts, each
replacing the one before it, started from.
-/
structure Deployment where
  guid : DeploymentGuid
  app : AppGuid
  droplet : Option DropletGuid
  previousDroplet : Option DropletGuid
  state : DeploymentState
  deployingWebProcess : Option ProcessGuid
  originalWebProcessInstanceCount : UInt32
  revision : Option RevisionRef
  createdAt : Instant
  updatedAt : Instant
  deriving DecidableEq

namespace Deployment

def isDeploying (d : Deployment) : Bool := d.state == .deploying

def fieldNames : List String := [
  "guid", "app", "droplet", "previous_droplet", "state", "deploying_web_process",
  "original_web_process_instance_count", "revision", "created_at", "updated_at"]

def toJson (d : Deployment) : Json := .object [
  ("guid", d.guid.toJson),
  ("app", d.app.toJson),
  ("droplet", .ofText? (d.droplet.map (·.text))),
  ("previous_droplet", .ofText? (d.previousDroplet.map (·.text))),
  ("state", d.state.toJson),
  ("deploying_web_process", .ofText? (d.deployingWebProcess.map (·.text))),
  ("original_web_process_instance_count", .nat d.originalWebProcessInstanceCount.toNat),
  ("revision", match d.revision with | some r => r.toJson | none => .null),
  ("created_at", d.createdAt.toJson),
  ("updated_at", d.updatedAt.toJson)]

def ofJson? (j : Json) : Option Deployment := do
  let fields ← Json.fields? fieldNames j
  return {
    guid := ← fields.need "guid" Guid.ofJson?
    app := ← fields.need "app" Guid.ofJson?
    droplet := ← fields.optional "droplet" Guid.ofJson?
    previousDroplet := ← fields.optional "previous_droplet" Guid.ofJson?
    state := ← fields.need "state" DeploymentState.ofJson?
    deployingWebProcess := ← fields.optional "deploying_web_process" Guid.ofJson?
    originalWebProcessInstanceCount :=
      ← fields.need "original_web_process_instance_count" Json.uint32?
    revision := ← fields.optional "revision" RevisionRef.ofJson?
    createdAt := ← fields.need "created_at" Instant.ofJson?
    updatedAt := ← fields.need "updated_at" Instant.ofJson? }

end Deployment

/-- A process that took part in a deployment; `processType` is its label at that time. -/
structure HistoricalProcess where
  deployment : DeploymentGuid
  processGuid : ProcessGuid
  processType : String
  createdAt : Instant
  deriving DecidableEq

namespace HistoricalProcess

def fieldNames : List String := ["deployment", "process_guid", "process_type", "created_at"]

def toJson (h : HistoricalProcess) : Json := .object [
  ("deployment", h.deployment.toJson),
  ("process_guid", h.processGuid.toJson),
  ("process_type", .string h.processType),
  ("created_at", h.createdAt.toJson)]

def ofJson? (j : Json) : Option HistoricalProcess := do
  let fields ← Json.fields? fieldNames j
  return {
    deployment := ← fields.need "deployment" Guid.ofJson?
    processGuid := ← fields.need "process_guid" Guid.ofJson?
    processType := ← fields.need "process_type" Json.text?
    createdAt := ← fields.need "created_at" Instant.ofJson? }

end HistoricalProcess

end Rollout
