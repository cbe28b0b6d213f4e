import Rollout.Deploy.Error
import Rollout.Store.Transaction

/-! Revisions of the droplets that an app rolls out. -/

namespace Rollout

abbrev RevisionCreator := App → Droplet → Tx DeployError Revision

namespace Revision

def latest (revisions : List Revision) : UInt32 :=
  revisions.foldl (fun n r => if n < r.version then r.version else n) 0

/-- Stores a revision with the number after the greatest of its app. -/
def sequential (guid : RevisionGuid) (time : Instant) : RevisionCreator := fun app droplet => do
  let revisions ← Tx.ask (·.revisionsOf app.guid)
  let revision : Revision := ⟨guid, app.guid, latest revisions + 1, droplet.guid, time⟩
  Tx.change .store (·.insertRevision revision)
  return revision

end Revision

end Rollout
