import Rollout.Audit
import Rollout.Store.Tables

/-! Why a deployment was not created. -/

namespace Rollout

inductive DeployError where
  | setCurrentDroplet
  | noWebProcess (app : String)
  | revision (reason : String)
  | store (error : StoreError)
  | audit (error : AuditError)
  deriving DecidableEq

namespace DeployError

/-- The caller, the store or a collaborator is at fault. -/
inductive Kind where
  | validation
  | transaction
  | collaborator
  deriving DecidableEq

def kind : DeployError → Kind
  | setCurrentDroplet | noWebProcess _ | store (.appNotFound _) => .validation
  | store _ => .transaction
  | revision _ | audit _ => .collaborator

def message : DeployError → String
  | setCurrentDroplet =>
    "Unable to assign current droplet. Ensure the droplet exists and belongs to this app."
  | noWebProcess app => "app " ++ app ++ " has no web process to deploy"
  | revision reason => "failed to create revision: " ++ reason
  | store error => "store error: " ++ error.message
  | audit error => "audit error: " ++ error.message

end DeployError

end Rollout
