import Rollout.Store.Transaction

/-! The routes of one process carried over to another. -/

namespace Rollout

/-- Where the guid and the time of the `n`th new mapping come from. -/
structure MappingDraws where
  guid : Nat → RouteMappingGuid
  time : Nat → Instant

namespace RouteMapping

def missing (existing mappings : List RouteMapping) : List RouteMapping :=
  mappings.filter fun m => !existing.any (·.route = m.route)

def onto (m : RouteMapping) (target : ProcessGuid) (guid : RouteMappingGuid) (time : Instant) :
    RouteMapping :=
  { m with guid, process := target, createdAt := time }

def insertOnto (draws : MappingDraws) (target : ProcessGuid) (n : Nat) :
    List RouteMapping → Tx StoreError Unit
  | [] => pure ()
  | m :: mappings => do
    Tx.change id (·.insertMapping (m.onto target (draws.guid n) (draws.time n)))
    insertOnto draws target (n + 1) mappings

/--
Leads every route of `source` to `target` with the same weight, unless it leads there already,
and counts the new mappings.
-/
def carryOver (draws : MappingDraws) (source target : ProcessGuid) : Tx StoreError Nat := do
  let existing ← Tx.ask (·.mappingsOf target)
  let mappings ← Tx.ask (·.mappingsOf source)
  let new := missing existing mappings
  insertOnto draws target 0 new
  return new.length

end RouteMapping

end Rollout
