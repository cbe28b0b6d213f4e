import Rollout.Dictionary
import Rollout.Json.Writer
import Rollout.Record.App

/-! Audit events and the sinks that take them. -/

namespace Rollout

structure UserAuditInfo where
  userGuid : String
  userEmail : Option String
  userName : Option String
  deriving DecidableEq

structure AuditEvent where
  type : String
  actor : String
  actorType : String
  actorName : Option String
  actorUsername : Option String
  actee : String
  acteeType : String
  acteeName : String
  timestamp : Instant
  spaceGuid : String
  organizationGuid : String
  metadata : Dictionary String
  deriving DecidableEq

namespace AuditEvent

def forApp (type : String) (user : UserAuditInfo) (app : App) (metadata : Dictionary String)
    (timestamp : Instant) : AuditEvent where
  type := type
  actor := user.userGuid
  actorType := "user"
  actorName := user.userEmail
  actorUsername := user.userName
  actee := app.guid.text
  acteeType := "app"
  acteeName := app.name
  timestamp := timestamp
  spaceGuid := app.spaceGuid
  organizationGuid := app.organizationGuid
  metadata := metadata

def deploymentCreate : String := "audit.app.deployment.create"

def toJson (e : AuditEvent) : Json := .object [
  ("type", .string e.type),
  ("actor", .string e.actor),
  ("actor_type", .string e.actorType),
  ("actor_name", .ofText? e.actorName),
  ("actor_username", .ofText? e.actorUsername),
  ("actee", .string e.actee),
  ("actee_type", .string e.acteeType),
  ("actee_name", .string e.acteeName),
  ("timestamp", e.timestamp.toJson),
  ("space_guid", .string e.spaceGuid),
  ("organization_guid", .string e.organizationGuid),
  ("metadata", .object (e.metadata.entries.map fun (name, value) => (name, .string value)))]

end AuditEvent

inductive AuditError where
  | recordFailed (eventType reason : String)
  deriving DecidableEq

namespace AuditError

def message : AuditError → String
  | recordFailed eventType reason =>
    "failed to record audit event " ++ eventType ++ ": " ++ reason

end AuditError

/-- What takes an event, with the state that it leaves behind; it may refuse the event. -/
abbrev AuditSink (σ : Type) := AuditEvent → σ → Except AuditError Unit × σ

namespace AuditSink

def memory : AuditSink (List AuditEvent) := fun event events => (.ok (), events ++ [event])

def lines : AuditSink (List String) := fun event written =>
  (.ok (), written ++ [event.toJson.compact])

def refusing {σ : Type} (reason : String) : AuditSink σ := fun event state =>
  (.error (.recordFailed event.type reason), state)

end AuditSink

end Rollout
