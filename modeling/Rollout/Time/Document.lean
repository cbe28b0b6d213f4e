import Rollout.Json.Record
import Rollout.Time.Rfc3339

/-! Instants in documents. -/

namespace Rollout.Instant

def toJson (t : Instant) : Json := .string t.text

def ofJson? (j : Json) : Option Instant := (Json.text? j).bind parse?

end Rollout.Instant
