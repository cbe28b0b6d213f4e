import Rollout.Store.Tables

/-!
Transactions. One that fails has no effect on the store, whatever it wrote; within itself it goes
on from what it has written.
-/

namespace Rollout

/-- Steps on private tables, which keep what was written before a failure. -/
abbrev Tx (ε α : Type) := ExceptT ε (StateM Tables) α

namespace Tx

variable {ε α : Type}

def ask (f : Tables → α) : Tx ε α := fun t => (.ok (f t), t)

/-- A change of the tables, or none if it is refused. -/
def change (wrap : StoreError → ε) (f : Tables → Except StoreError Tables) : Tx ε Unit := fun t =>
  match f t with
  | .ok t' => (.ok (), t')
  | .error e => (.error (wrap e), t)

def app (wrap : StoreError → ε) (guid : AppGuid) : Tx ε App := fun t =>
  match t.app? guid with
  | some a => (.ok a, t)
  | none => (.error (wrap (.appNotFound guid.text)), t)

/--
Takes a deployment out, and its history with it. That there was none shows in the number of the
rows that are left.
-/
def deleteDeployment (wrap : StoreError → ε) (guid : DeploymentGuid) : Tx ε Unit := fun t =>
  let left := { t with deployments := t.deployments.filter (·.guid ≠ guid) }
  if left.deployments.length = t.deployments.length then
    (.error (wrap (.deploymentNotFound guid.text)), left)
  else
    (.ok (), { left with
      historicalProcesses := left.historicalProcesses.filter (·.deployment ≠ guid) })

def mapError {ε' : Type} (wrap : ε → ε') (tx : Tx ε α) : Tx ε' α := fun t =>
  match tx t with
  | (.ok a, t') => (.ok a, t')
  | (.error e, t') => (.error (wrap e), t')

end Tx

structure Store where
  tables : Tables
  available : Bool
  deriving DecidableEq

namespace Store

variable {ε α : Type}

def empty : Store := ⟨.empty, true⟩

def disabled : StoreError := .unavailable "memory store disabled"

/-- Runs a transaction, whose tables come into force if it succeeds. -/
def transaction (s : Store) (wrap : StoreError → ε) (tx : Tx ε α) : Except ε α × Store :=
  if s.available then
    match tx s.tables with
    | (.ok a, tables) => (.ok a, { s with tables })
    | (.error e, _) => (.error e, s)
  else (.error (wrap disabled), s)

end Store

end Rollout
