import Rollout.Checksum
import Rollout.Guid
import Rollout.Time.Document

/-! Apps, the droplets that they run, and the revisions that number what they ran. -/

namespace Rollout

structure App where
  guid : AppGuid
  name : String
  spaceGuid : String
  organizationGuid : String
  droplet : Option DropletGuid
  createdAt : Instant
  deriving DecidableEq

namespace App

def fieldNames : List String :=
  ["guid", "name", "space_guid", "organization_guid", "droplet", "created_at"]

def toJson (a : App) : Json := .object [
  ("guid", a.guid.toJson),
  ("name", .string a.name),
  ("space_guid", .string a.spaceGuid),
  ("organization_guid", .string a.organizationGuid),
  ("droplet", .ofText? (a.droplet.map (·.text))),
  ("created_at", a.createdAt.toJson)]

def ofJson? (j : Json) : Option App := do
  let fields ← Json.fields? fieldNames j
  return {
    guid := ← fields.need "guid" Guid.ofJson?
    name := ← fields.need "name" Json.text?
    spaceGuid := ← fields.need "space_guid" Json.text?
    organizationGuid := ← fields.need "organization_guid" Json.text?
    droplet := ← fields.optional "droplet" Guid.ofJson?
    createdAt := ← fields.need "created_at" Instant.ofJson? }

end App

/-- What staging an app built. `dropletHash` is the SHA-1 hash of older droplets. -/
structure Droplet where
  guid : DropletGuid
  app : AppGuid
  sha256Checksum : Option String
  dropletHash : Option String
  createdAt : Instant
  deriving DecidableEq

namespace Droplet

def checksum (d : Droplet) : Option Checksum := Checksum.select d.sha256Checksum d.dropletHash

def fieldNames : List String :=
  ["guid", "app", "sha256_checksum", "droplet_hash", "created_at"]

def toJson (d : Droplet) : Json := .object [
  ("guid", d.guid.toJson),
  ("app", d.app.toJson),
  ("sha256_checksum", .ofText? d.sha256Checksum),
  ("droplet_hash", .ofText? d.dropletHash),
  ("created_at", d.createdAt.toJson)]

def ofJson? (j : Json) : Option Droplet := do
  let fields ← Json.fields? fieldNames j
  return {
    guid := ← fields.need "guid" Guid.ofJson?
    app := ← fields.need "app" Guid.ofJson?
    sha256Checksum := ← fields.optional "sha256_checksum" Json.text?
    dropletHash := ← fields.optional "droplet_hash" Json.text?
    createdAt := ← fields.need "created_at" Instant.ofJson? }

end Droplet

/-- A droplet that an app ran, with a number that grows within the app. -/
structure Revision where
  guid : RevisionGuid
  app : AppGuid
  version : UInt32
  droplet : DropletGuid
  createdAt : Instant
  deriving DecidableEq

namespace Revision

def fieldNames : List String := ["guid", "app", "version", "droplet", "created_at"]

def toJson (r : Revision) : Json := .object [
  ("guid", r.guid.toJson),
  ("app", r.app.toJson),
  ("version", .nat r.version.toNat),
  ("droplet", r.droplet.toJson),
  ("created_at", r.createdAt.toJson)]

def ofJson? (j : Json) : Option Revision := do
  let fields ← Json.fields? fieldNames j
  return {
    guid := ← fields.need "guid" Guid.ofJson?
    app := ← fields.need "app" Guid.ofJson?
    version := ← fields.need "version" Json.uint32?
    droplet := ← fields.need "droplet" Guid.ofJson?
    createdAt := ← fields.need "created_at" Instant.ofJson? }

end Revision

end Rollout
