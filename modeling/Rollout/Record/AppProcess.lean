import Rollout.Json.Normal
import Rollout.ProcessType
import Rollout.Time.Document

/-! Processes of apps and how their health is checked. -/

namespace Rollout

inductive HealthCheckType where
  | port
  | process
  | http
  deriving DecidableEq

namespace HealthCheckType

def text : HealthCheckType → String
  | port => "port"
  | process => "process"
  | http => "http"

def toJson (t : HealthCheckType) : Json := .string t.text

def ofJson? (j : Json) : Option HealthCheckType := do
  match ← Json.word? j with
  | "port" => some port
  | "process" => some process
  | "http" => some http
  | _ => none

end HealthCheckType

/-- Times are in seconds; the endpoint is that of an `http` check. -/
structure HealthCheck where
  type : HealthCheckType
  timeout : Option UInt32
  invocationTimeout : Option UInt32
  httpEndpoint : Option String
  deriving DecidableEq

namespace HealthCheck

def byPort : HealthCheck := ⟨.port, none, none, none⟩

def seconds : Option UInt32 → Json
  | some n => .nat n.toNat
  | none => .null

def toJson (h : HealthCheck) : Json := .object [
  ("type", h.type.toJson),
  ("timeout", seconds h.timeout),
  ("invocation_timeout", seconds h.invocationTimeout),
  ("http_endpoint", .ofText? h.httpEndpoint)]

def ofJson? (j : Json) : Option HealthCheck := do
  let fields ← Json.fields? ["type", "timeout", "invocation_timeout", "http_endpoint"] j
  return {
    type := ← fields.withDefault "type" .port HealthCheckType.ofJson?
    timeout := ← fields.optional "timeout" Json.uint32?
    invocationTimeout := ← fields.optional "invocation_timeout" Json.uint32?
    httpEndpoint := ← fields.optional "http_endpoint" Json.text? }

end HealthCheck

inductive ProcessState where
  | stopped
  | started
  deriving DecidableEq

namespace ProcessState

def text : ProcessState → String
  | stopped => "STOPPED"
  | started => "STARTED"

def toJson (s : ProcessState) : Json := .string s.text

def ofJson? (j : Json) : Option ProcessState := do
  match ← Json.word? j with
  | "STOPPED" => some stopped
  | "STARTED" => some started
  | _ => none

end ProcessState

/-- `metadata` is free-form; `deployment` is the rollout that a shadow web process belongs to. -/
structure AppProcess where
  guid : ProcessGuid
  app : AppGuid
  type : ProcessType
  state : ProcessState
  instances : UInt32
  memoryMb : UInt64
  diskQuotaMb : UInt64
  fileDescriptors : UInt64
  command : Option String
  detectedBuildpack : Option String
  healthCheck : HealthCheck
  enableSsh : Bool
  ports : Option (List UInt16)
  metadata : Json.Annotations
  revision : Option RevisionGuid
  deployment : Option DeploymentGuid
  createdAt : Instant
  updatedAt : Instant
  deriving DecidableEq

namespace AppProcess

/-- A stopped process with the quotas that a platform gives at first. -/
def initial (guid : ProcessGuid) (app : AppGuid) (type : ProcessType) (time : Instant) :
    AppProcess where
  guid := guid
  app := app
  type := type
  state := .stopped
  instances := 1
  memoryMb := 1024
  diskQuotaMb := 1024
  fileDescriptors := 16384
  command := none
  detectedBuildpack := none
  healthCheck := .byPort
  enableSsh := true
  ports := none
  metadata := .empty
  revision := none
  deployment := none
  createdAt := time
  updatedAt := time

def label (p : AppProcess) : String := p.type.label p.deployment

def isStarted (p : AppProcess) : Bool := p.state == .started

def portsJson : Option (List UInt16) → Json
  | some ports => .array (ports.map fun port => .nat port.toNat)
  | none => .null

def fieldNames : List String := [
  "guid", "app", "type", "state", "instances", "memory_mb", "disk_quota_mb", "file_descriptors",
  "command", "detected_buildpack", "health_check", "enable_ssh", "ports", "metadata", "revision",
  "deployment", "created_at", "updated_at"]

def toJson (p : AppProcess) : Json := .object [
  ("guid", p.guid.toJson),
  ("app", p.app.toJson),
  ("type", p.type.toJson),
  ("state", p.state.toJson),
  ("instances", .nat p.instances.toNat),
  ("memory_mb", .nat p.memoryMb.toNat),
  ("disk_quota_mb", .nat p.diskQuotaMb.toNat),
  ("file_descriptors", .nat p.fileDescriptors.toNat),
  ("command", .ofText? p.command),
  ("detected_buildpack", .ofText? p.detectedBuildpack),
  ("health_check", p.healthCheck.toJson),
  ("enable_ssh", .bool p.enableSsh),
  ("ports", portsJson p.ports),
  ("metadata", p.metadata.toJson),
  ("revision", .ofText? (p.revision.map (·.text))),
  ("deployment", .ofText? (p.deployment.map (·.text))),
  ("created_at", p.createdAt.toJson),
  ("updated_at", p.updatedAt.toJson)]

def ofJson? (j : Json) : Option AppProcess := do
  let fields ← Json.fields? fieldNames j
  return {
    guid := ← fields.need "guid" Guid.ofJson?
    app := ← fields.need "app" Guid.ofJson?
    type := ← fields.need "type" ProcessType.ofJson?
    state := ← fields.need "state" ProcessState.ofJson?
    instances := ← fields.need "instances" Json.uint32?
    memoryMb := ← fields.need "memory_mb" Json.uint64?
    diskQuotaMb := ← fields.need "disk_quota_mb" Json.uint64?
    fileDescriptors := ← fields.need "file_descriptors" Json.uint64?
    command := ← fields.optional "command" Json.text?
    detectedBuildpack := ← fields.optional "detected_buildpack" Json.text?
    healthCheck := ← fields.need "health_check" HealthCheck.ofJson?
    enableSsh := ← fields.need "enable_ssh" Json.bool?
    ports := ← fields.optional "ports" (Json.list? Json.uint16?)
    metadata := ← fields.need "metadata" Json.Annotations.ofJson?
    revision := ← fields.optional "revision" Guid.ofJson?
    deployment := ← fields.optional "deployment" Guid.ofJson?
    createdAt := ← fields.need "created_at" Instant.ofJson?
    updatedAt := ← fields.need "updated_at" Instant.ofJson? }

end AppProcess

end Rollout
