import Rollout.Deploy.Revisions
import Rollout.Proofs.Store.Integrity

/-! The revisions that are stored with the next number. -/

namespace Rollout.Revision

variable {guid : RevisionGuid} {time : Instant} {app : App} {droplet : Droplet} {t t' : Tables}

def next (guid : RevisionGuid) (time : Instant) (t : Tables) (app : App) (droplet : Droplet) :
    Revision :=
  ⟨guid, app.guid, latest (t.revisionsOf app.guid) + 1, droplet.guid, time⟩

lemma sequential_ok {r : Revision} :
    sequential guid time app droplet t = (.ok r, t') ↔
      guid ∉ t.revisions.map (·.guid) ∧ r = next guid time t app droplet ∧
        t' = { t with revisions := t.revisions ++ [r] } := by
  simp only [sequential, Tx.bind_ok, Tx.ask_ok, Tx.change_ok, Tx.pure_ok, Tables.insertRevision_ok]
  constructor
  · rintro ⟨_, _, ⟨rfl, rfl⟩, _, u, ⟨hn, rfl⟩, rfl, rfl⟩
    exact ⟨hn, rfl, rfl⟩
  · rintro ⟨hn, rfl, rfl⟩
    exact ⟨_, t, ⟨rfl, rfl⟩, (), _, ⟨hn, rfl⟩, rfl, rfl⟩

lemma sequential_keeps {I : Tables → Prop} (hI : Tables.Lasting (fun _ => True) I) :
    (sequential guid time app droplet).Keeps I := by
  refine Tx.keeps_bind (Tx.keeps_ask _) fun rows => ?_
  exact Tx.keeps_bind (Tables.keeps_effect hI (.insertRevision _)) fun _ => Tx.keeps_pure _

end Rollout.Revision
