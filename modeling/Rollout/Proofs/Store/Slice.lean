import Rollout.Proofs.Store.Integrity

/-! The part of the tables that concerns one app. -/

namespace Rollout

namespace Tables

def processGuids (t : Tables) (app : AppGuid) : List ProcessGuid :=
  (t.processes.filter (·.app = app)).map (·.guid)

def deploymentGuids (t : Tables) (app : AppGuid) : List DeploymentGuid :=
  (t.deployments.filter (·.app = app)).map (·.guid)

/-- The droplets, and of the other rows those of the app. -/
def slice (t : Tables) (app : AppGuid) : Tables where
  apps := t.apps.filter (·.guid = app)
  droplets := t.droplets
  revisions := t.revisions.filter (·.app = app)
  processes := t.processes.filter (·.app = app)
  routeMappings := t.routeMappings.filter (·.process ∈ t.processGuids app)
  deployments := t.deployments.filter (·.app = app)
  historicalProcesses := t.historicalProcesses.filter (·.deployment ∈ t.deploymentGuids app)

variable {t : Tables} {app : AppGuid}

lemma mem_processGuids {p : AppProcess} (h : p ∈ t.processes) (ha : p.app = app) :
    p.guid ∈ t.processGuids app :=
  List.mem_map_of_mem (List.mem_filter.mpr ⟨h, decide_eq_true ha⟩)

lemma mem_deploymentGuids {d : Deployment} (h : d ∈ t.deployments) (ha : d.app = app) :
    d.guid ∈ t.deploymentGuids app :=
  List.mem_map_of_mem (List.mem_filter.mpr ⟨h, decide_eq_true ha⟩)

lemma app?_slice : (t.slice app).app? app = t.app? app := by
  simp [app?, slice, List.find?_filter]

lemma revisionsOf_slice : (t.slice app).revisionsOf app = t.revisionsOf app := by
  rw [revisionsOf, slice, filter_filter_of_imp fun _ _ h => h, revisionsOf]

lemma processesOf_slice : (t.slice app).processesOf app = t.processesOf app := by
  rw [processesOf, slice, filter_filter_of_imp fun _ _ h => h, processesOf]

lemma deploymentsOf_slice : (t.slice app).deploymentsOf app = t.deploymentsOf app := by
  rw [deploymentsOf, slice, filter_filter_of_imp fun _ _ h => h, deploymentsOf]

lemma mappingsOf_slice {guid : ProcessGuid} (h : guid ∈ t.processGuids app) :
    (t.slice app).mappingsOf guid = t.mappingsOf guid := by
  have himp : ∀ m ∈ t.routeMappings, decide (m.process = guid) = true →
      decide (m.process ∈ t.processGuids app) = true :=
    fun m _ hm => decide_eq_true (of_decide_eq_true hm ▸ h)
  rw [mappingsOf, slice, filter_filter_of_imp himp, mappingsOf]

lemma historyOf_slice {guid : DeploymentGuid} (h : guid ∈ t.deploymentGuids app) :
    (t.slice app).historyOf guid = t.historyOf guid := by
  have himp : ∀ r ∈ t.historicalProcesses, decide (r.deployment = guid) = true →
      decide (r.deployment ∈ t.deploymentGuids app) = true :=
    fun r _ hr => decide_eq_true (of_decide_eq_true hr ▸ h)
  rw [historyOf, slice, filter_filter_of_imp himp, historyOf]

lemma view_slice : (t.slice app).view app = t.view app := by
  have hmappings : (t.processesOf app).map (fun p => (t.slice app).mappingsOf p.guid) =
      (t.processesOf app).map fun p => t.mappingsOf p.guid := by
    apply List.map_congr_left
    intro p hp
    simp only [processesOf, mem_sortByCreation, List.mem_filter, decide_eq_true_eq] at hp
    exact mappingsOf_slice (mem_processGuids hp.1 hp.2)
  have hhistories : (t.deploymentsOf app).map (fun d => (t.slice app).historyOf d.guid) =
      (t.deploymentsOf app).map fun d => t.historyOf d.guid := by
    apply List.map_congr_left
    intro d hd
    simp only [deploymentsOf, mem_sortByCreation, List.mem_filter, decide_eq_true_eq] at hd
    exact historyOf_slice (mem_deploymentGuids hd.1 hd.2)
  simp only [view, app?_slice, revisionsOf_slice, processesOf_slice, deploymentsOf_slice,
    hmappings, hhistories]

lemma Intact.slice (h : t.Intact) : (t.slice app).Intact where
  apps := nodup_filter_key h.apps
  droplets := h.droplets
  revisions := nodup_filter_key h.revisions
  processes := nodup_filter_key h.processes
  mappings := nodup_filter_key h.mappings
  routes := nodup_filter_key h.routes
  deployments := nodup_filter_key h.deployments
  history := fun _ hr => of_decide_eq_true (List.mem_filter.mp hr).2

end Tables

variable {ε α : Type} {wrap : StoreError → ε} {tx : Tx ε α} {t : Tables} {app : AppGuid}

/-- The steps do to the slice of the app what they do to the whole. -/
def Tx.Local (app : AppGuid) (t : Tables) (tx : Tx ε α) : Prop :=
  match tx t with
  | (.ok a, t') => tx (t.slice app) = (.ok a, t'.slice app)
  | (.error e, _) => (tx (t.slice app)).1 = .error e

def Store.slice (s : Store) (app : AppGuid) : Store := { s with tables := s.tables.slice app }

lemma Store.slice_congr {s s' : Store} (ha : s'.available = s.available)
    (ht : s'.tables.slice app = s.tables.slice app) : s'.slice app = s.slice app := by
  rw [slice, slice, ht, ha]

lemma Store.transaction_slice {s : Store} (h : tx.Local app s.tables) :
    (s.slice app).transaction wrap tx =
      ((s.transaction wrap tx).1, (s.transaction wrap tx).2.slice app) := by
  unfold transaction
  have ha : (s.slice app).available = s.available := rfl
  have ht : (s.slice app).tables = s.tables.slice app := rfl
  rw [ha, ht]
  cases s.available with
  | false => rfl
  | true =>
    unfold Tx.Local at h
    rcases hr : tx s.tables with ⟨e | a, t'⟩
    · rw [hr] at h
      rcases hl : tx (s.tables.slice app) with ⟨x, u⟩
      rw [hl] at h
      cases h
      rfl
    · rw [hr] at h
      simp only [h, if_true]
      rfl

end Rollout
