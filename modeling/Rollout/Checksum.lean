import Rollout.Json.Record

/-! Checksums of droplets. -/

namespace Rollout

inductive ChecksumAlgorithm where
  | sha256
  | sha1
  deriving DecidableEq

namespace ChecksumAlgorithm

def text : ChecksumAlgorithm → String
  | sha256 => "sha256"
  | sha1 => "sha1"

def toJson (a : ChecksumAlgorithm) : Json := .string a.text

def ofJson? (j : Json) : Option ChecksumAlgorithm := do
  match ← Json.word? j with
  | "sha256" => some sha256
  | "sha1" => some sha1
  | _ => none

theorem ofJson?_toJson (a : ChecksumAlgorithm) : ofJson? a.toJson = some a := by
  cases a <;> rfl

end ChecksumAlgorithm

structure Checksum where
  algorithm : ChecksumAlgorithm
  value : String
  deriving DecidableEq

def nonempty? : Option String → Option String
  | some s => if s.isEmpty then none else some s
  | none => none

namespace Checksum

def isStrong (c : Checksum) : Bool := c.algorithm == .sha256

/-- The SHA-256 checksum if there is one, else the older SHA-1 hash. -/
def select (sha256 legacy : Option String) : Option Checksum :=
  match nonempty? sha256 with
  | some value => some ⟨.sha256, value⟩
  | none => (nonempty? legacy).map (.mk .sha1)

end Checksum

end Rollout
