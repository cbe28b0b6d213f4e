import Rollout.Proofs.Deploy.Launch

/-! How a rollout ends the ones in flight that it replaces. -/

namespace Rollout

namespace Tables

variable {t : Tables} {app : AppGuid}

def inFlight (t : Tables) (app : AppGuid) : List Deployment :=
  (t.deploymentsOf app).filter Deployment.isDeploying

/-- A rollout that replaces others goes by the instance count of the last of them. -/
def instancesFor (t : Tables) (l : Launch) : UInt32 :=
  ((t.inFlight l.app.guid).getLast?.map (·.originalWebProcessInstanceCount)).getD l.web.instances

lemma mem_inFlight {d : Deployment} :
    d ∈ t.inFlight app ↔ d ∈ t.deployments ∧ d.app = app ∧ d.isDeploying = true := by
  simp [inFlight, deploymentsOf, and_assoc]

lemma nodup_inFlight (h : (t.deployments.map (·.guid)).Nodup) :
    ((t.inFlight app).map (·.guid)).Nodup :=
  nodup_filter_key (nodup_sortByCreation (nodup_filter_key h))

end Tables

namespace Deployment

variable {t t' : Tables} {app a : AppGuid} {time : Instant}

def ended (time : Instant) (d : Deployment) : Deployment :=
  { d with state := .deployed, updatedAt := time }

def endAll (time : Instant) (ds rows : List Deployment) : List Deployment :=
  ds.foldl (fun rows d => replaceFirst (·.guid = d.guid) (d.ended time) rows) rows

lemma endAll_guids {ds rows : List Deployment} :
    (endAll time ds rows).map (·.guid) = rows.map (·.guid) :=
  map_foldl_replaceFirst (f := ended time) fun _ => rfl

lemma supersede_ok {ds : List Deployment} {u : Unit} :
    supersede time ds t = (.ok u, t') ↔ (∀ d ∈ ds, d.guid ∈ t.deployments.map (·.guid)) ∧
      t' = { t with deployments := endAll time ds t.deployments } := by
  induction ds generalizing t with
  | nil =>
    rw [supersede, Tx.pure_ok]
    simp [endAll, eq_comm]
  | cons d ds ih =>
    have hkeys : (replaceFirst (·.guid = d.guid) (d.ended time) t.deployments).map (·.guid) =
        t.deployments.map (·.guid) := map_replaceFirst fun r _ hr => of_decide_eq_true hr
    simp only [supersede, Tx.bind_ok, Tx.change_ok, Tables.updateDeployment_ok, ih,
      List.forall_mem_cons]
    constructor
    · rintro ⟨_, u, ⟨hd, rfl⟩, hds, rfl⟩
      exact ⟨⟨hd, fun c hc => hkeys ▸ hds c hc⟩, rfl⟩
    · rintro ⟨⟨hd, hds⟩, rfl⟩
      exact ⟨(), _, ⟨hd, rfl⟩, fun c hc => hkeys.symm ▸ hds c hc, rfl⟩

lemma supersede_keeps {I : Tables → Prop} (hI : Tables.Lasting (fun _ => True) I)
    {ds : List Deployment} : (supersede time ds).Keeps I := by
  induction ds with
  | nil => exact Tx.keeps_pure _
  | cons d ds ih => exact Tx.keeps_bind (Tables.keeps_effect hI (.updateDeployment _)) fun _ => ih

/-- What a new rollout of `app` makes of an older row. -/
def superseded (time : Instant) (app : AppGuid) (d : Deployment) : Deployment :=
  if d.app = app ∧ d.isDeploying then d.ended time else d

lemma endAll_inFlight (h : (t.deployments.map (·.guid)).Nodup) :
    endAll time (t.inFlight app) t.deployments = t.deployments.map (superseded time app) := by
  have hstored : ∀ d ∈ t.inFlight app, d ∈ t.deployments :=
    fun d hd => (Tables.mem_inFlight.mp hd).1
  have hlisted : ((t.inFlight app).map (·.guid)).Nodup := Tables.nodup_inFlight h
  rw [endAll, foldl_replaceFirst (f := ended time) (fun _ => rfl) h hlisted hstored]
  apply List.map_congr_left
  intro d hd
  simp only [superseded, Tables.mem_inFlight, hd, true_and]

lemma superseded_field {β : Type} {f : Deployment → β} (hf : ∀ d, f (d.ended time) = f d)
    (d : Deployment) : f (superseded time app d) = f d := by
  unfold superseded
  split
  · exact hf d
  · rfl

lemma map_superseded {β : Type} {f : Deployment → β} (hf : ∀ d, f (d.ended time) = f d)
    (rows : List Deployment) : (rows.map (superseded time app)).map f = rows.map f := by
  rw [List.map_map]
  exact List.map_congr_left fun d _ => superseded_field hf d

lemma nodup_superseded {β : Type} {f : Deployment → β} (hf : ∀ d, f (d.ended time) = f d)
    {rows : List Deployment} {d : Deployment} (h : (rows.map f).Nodup) (hn : f d ∉ rows.map f) :
    ((rows.map (superseded time app) ++ [d]).map f).Nodup := by
  rw [← map_superseded hf rows] at h hn
  exact nodup_append_key h hn

lemma superseded_app (d : Deployment) : (superseded time app d).app = d.app :=
  superseded_field (fun _ => rfl) d

lemma superseded_guid (d : Deployment) : (superseded time app d).guid = d.guid :=
  superseded_field (fun _ => rfl) d

lemma superseded_guids (rows : List Deployment) :
    (rows.map (superseded time app)).map (·.guid) = rows.map (·.guid) :=
  map_superseded (fun _ => rfl) rows

lemma superseded_other {d : Deployment} (h : d.app ≠ app) : superseded time app d = d :=
  if_neg fun hd => h hd.1

lemma filter_superseded (rows : List Deployment) :
    (rows.map (superseded time app)).filter (·.app = a) =
      (rows.filter (·.app = a)).map (superseded time app) := by
  simp [List.filter_map, Function.comp_def, superseded_app]

lemma filter_superseded_other (h : app ≠ a) (rows : List Deployment) :
    (rows.map (superseded time app)).filter (·.app = a) = rows.filter (·.app = a) := by
  rw [filter_superseded]
  conv_rhs => rw [← List.map_id (rows.filter (·.app = a))]
  apply List.map_congr_left
  intro d hd
  have hd : d.app = a := of_decide_eq_true (List.mem_filter.mp hd).2
  exact superseded_other (hd ▸ h.symm)

lemma superseded_not_deploying {d : Deployment} (h : d.app = app) :
    (superseded time app d).isDeploying = false := by
  unfold superseded
  split
  · rfl
  · next hd => simpa only [h, true_and, Bool.not_eq_true] using hd

lemma superseded_deploying (rows : List Deployment) :
    (rows.map (superseded time app)).filter (fun d => d.app = a ∧ d.isDeploying) =
      if a = app then [] else rows.filter fun d => d.app = a ∧ d.isDeploying := by
  induction rows with
  | nil => simp
  | cons r rows ih =>
    rw [List.map_cons, List.filter_cons, ih]
    by_cases hr : r.app = a
    · by_cases ha : a = app
      · simp [ha, superseded_not_deploying (hr.trans ha)]
      · have hne : r.app ≠ app := hr ▸ ha
        simp [ha, superseded_other hne, List.filter_cons]
    · simp [superseded_app, hr]

end Deployment

end Rollout
