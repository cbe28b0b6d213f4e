import Rollout.Record.App

/-! Routes that lead to processes. -/

namespace Rollout

structure RouteMapping where
  guid : RouteMappingGuid
  app : AppGuid
  route : RouteGuid
  process : ProcessGuid
  weight : Option UInt32
  createdAt : Instant
  deriving DecidableEq

namespace RouteMapping

def fieldNames : List String := ["guid", "app", "route", "process", "weight", "created_at"]

def toJson (m : RouteMapping) : Json := .object [
  ("guid", m.guid.toJson),
  ("app", m.app.toJson),
  ("route", m.route.toJson),
  ("process", m.process.toJson),
  ("weight", match m.weight with | some n => .nat n.toNat | none => .null),
  ("created_at", m.createdAt.toJson)]

def ofJson? (j : Json) : Option RouteMapping := do
  let fields ← Json.fields? fieldNames j
  return {
    guid := ← fields.need "guid" Guid.ofJson?
    app := ← fields.need "app" Guid.ofJson?
    route := ← fields.need "route" Guid.ofJson?
    process := ← fields.need "process" Guid.ofJson?
    weight := ← fields.optional "weight" Json.uint32?
    createdAt := ← fields.need "created_at" Instant.ofJson? }

end RouteMapping

end Rollout
