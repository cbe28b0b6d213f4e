import Rollout.Store.Transaction

/-! The retention of deployments: the oldest finished ones go beyond a limit for each app. -/

namespace Rollout

namespace Deployment

def doomed (limit : Nat) (listing : List Deployment) : List Deployment :=
  (listing.filter (·.state.isPrunable)).take (listing.length - limit)

def deleteAll : List DeploymentGuid → Tx StoreError Unit
  | [] => pure ()
  | guid :: guids => do
    Tx.deleteDeployment id guid
    deleteAll guids

/-- Leaves the app `limit` deployments, or more if they are in flight, and counts the deleted. -/
def pruneIn (app : AppGuid) (limit : Nat) : Tx StoreError Nat := do
  let going := doomed limit (← Tx.ask (·.deploymentsOf app))
  deleteAll (going.map (·.guid))
  return going.length

def prune (store : Store) (app : AppGuid) (limit : Nat) : Except StoreError Nat × Store :=
  store.transaction id (pruneIn app limit)

/-- Prunes app by app. If one fails, the ones before it stay pruned. -/
def pruneEach (limit : Nat) (deleted : Nat) (store : Store) :
    List AppGuid → Except StoreError Nat × Store
  | [] => (.ok deleted, store)
  | app :: apps =>
    match prune store app limit with
    | (.ok n, store) => pruneEach limit (deleted + n) store apps
    | (.error e, store) => (.error e, store)

def pruneAll (store : Store) (limit : Nat) : Except StoreError Nat × Store :=
  match store.transaction id (Tx.ask (·.appGuids)) with
  | (.ok apps, store) => pruneEach limit 0 store apps
  | (.error e, store) => (.error e, store)

end Deployment

end Rollout
