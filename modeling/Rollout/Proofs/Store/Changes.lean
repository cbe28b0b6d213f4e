import Rollout.Proofs.Store.Rows
import Rollout.Store.Operation

/-! When the tables take a change, and what they hold after it. -/

namespace Rollout

section Guards

variable {α : Type} {c : Prop} [Decidable c] {e : StoreError} {x y : α}

lemma unless_ok : (if c then Except.error e else .ok x) = .ok y ↔ ¬ c ∧ y = x := by
  by_cases h : c <;> simp [h, eq_comm]

lemma provided_ok : (if c then Except.ok x else .error e) = .ok y ↔ c ∧ y = x := by
  by_cases h : c <;> simp [h, eq_comm]

end Guards

namespace Tables

variable {t t' : Tables}

lemma insertApp_ok {a : App} :
    t.insertApp a = .ok t' ↔
      a.guid ∉ t.apps.map (·.guid) ∧ t' = { t with apps := t.apps ++ [a] } := by
  rw [insertApp, unless_ok, any_key_iff]

lemma updateApp_ok {a : App} :
    t.updateApp a = .ok t' ↔ a.guid ∈ t.apps.map (·.guid) ∧
      t' = { t with apps := replaceFirst (·.guid = a.guid) a t.apps } := by
  rw [updateApp, provided_ok, any_key_iff]

lemma insertDroplet_ok {d : Droplet} :
    t.insertDroplet d = .ok t' ↔ d.guid ∉ t.droplets.map (·.guid) ∧
      t' = { t with droplets := t.droplets ++ [d] } := by
  rw [insertDroplet, unless_ok, any_key_iff]

lemma insertRevision_ok {r : Revision} :
    t.insertRevision r = .ok t' ↔ r.guid ∉ t.revisions.map (·.guid) ∧
      t' = { t with revisions := t.revisions ++ [r] } := by
  rw [insertRevision, unless_ok, any_key_iff]

lemma insertProcess_ok {p : AppProcess} :
    t.insertProcess p = .ok t' ↔ p.guid ∉ t.processes.map (·.guid) ∧
      t' = { t with processes := t.processes ++ [p] } := by
  rw [insertProcess, unless_ok, any_key_iff]

lemma insertMapping_ok {m : RouteMapping} :
    t.insertMapping m = .ok t' ↔ m.guid ∉ t.routeMappings.map (·.guid) ∧
      (m.route, m.process) ∉ t.routeMappings.map (fun n => (n.route, n.process)) ∧
      t' = { t with routeMappings := t.routeMappings ++ [m] } := by
  rw [insertMapping, unless_ok, ← and_assoc]
  apply and_congr_left'
  simp only [List.any_eq_true, decide_eq_true_eq, List.mem_map, Prod.mk.injEq, ← not_or,
    ← exists_or, ← and_or_left]

lemma insertDeployment_ok {d : Deployment} :
    t.insertDeployment d = .ok t' ↔ d.guid ∉ t.deployments.map (·.guid) ∧
      t' = { t with deployments := t.deployments ++ [d] } := by
  rw [insertDeployment, unless_ok, any_key_iff]

lemma updateDeployment_ok {d : Deployment} :
    t.updateDeployment d = .ok t' ↔ d.guid ∈ t.deployments.map (·.guid) ∧
      t' = { t with deployments := replaceFirst (·.guid = d.guid) d t.deployments } := by
  rw [updateDeployment, provided_ok, any_key_iff]

/-- A deployment takes its history with it. -/
def deleteDeployment (t : Tables) (guid : DeploymentGuid) : Except StoreError Tables :=
  if t.deployments.any (·.guid = guid) then
    .ok { t with
      deployments := t.deployments.filter (·.guid ≠ guid)
      historicalProcesses := t.historicalProcesses.filter (·.deployment ≠ guid) }
  else .error (.deploymentNotFound guid.text)

lemma deleteDeployment_ok {guid : DeploymentGuid} :
    t.deleteDeployment guid = .ok t' ↔ guid ∈ t.deployments.map (·.guid) ∧
      t' = { t with
        deployments := t.deployments.filter (·.guid ≠ guid)
        historicalProcesses := t.historicalProcesses.filter (·.deployment ≠ guid) } := by
  rw [deleteDeployment, provided_ok, any_key_iff]

lemma insertHistory_ok {h : HistoricalProcess} :
    t.insertHistory h = .ok t' ↔ h.deployment ∈ t.deployments.map (·.guid) ∧
      t' = { t with historicalProcesses := t.historicalProcesses ++ [h] } := by
  rw [insertHistory, provided_ok, any_key_iff]

end Tables

/-- The rows that are left are as many as before only if none went, and then nothing has changed. -/
lemma Tx.deleteDeployment_eq {ε : Type} (wrap : StoreError → ε) (guid : DeploymentGuid) :
    Tx.deleteDeployment wrap guid = Tx.change wrap (·.deleteDeployment guid) := by
  funext t
  have hlength : (t.deployments.filter (·.guid ≠ guid)).length = t.deployments.length ↔
      guid ∉ t.deployments.map (·.guid) := by
    rw [List.length_filter_eq_length_iff, List.mem_map, not_exists]
    simp only [decide_eq_true_eq, not_and]
  rw [Tx.deleteDeployment, Tx.change, Tables.deleteDeployment]
  by_cases h : guid ∈ t.deployments.map (·.guid)
  · have hany : t.deployments.any (·.guid = guid) = true := any_key_iff.mpr h
    simp only [hlength, h, not_true_eq_false, if_false, hany, if_true]
  · have hany : t.deployments.any (·.guid = guid) = false :=
      Bool.eq_false_iff.mpr fun ha => h (any_key_iff.mp ha)
    have hall : t.deployments.filter (·.guid ≠ guid) = t.deployments :=
      List.filter_eq_self.mpr (List.length_filter_eq_length_iff.mp (hlength.mpr h))
    simp only [hany, hall, if_true, Bool.false_eq_true, if_false]

namespace Operation

/-- What an operation does to the tables; one that only reads does nothing. -/
def effect : Operation → Tables → Except StoreError Tables
  | .insertApp row, t => t.insertApp row
  | .updateApp row, t => t.updateApp row
  | .insertDroplet row, t => t.insertDroplet row
  | .insertRevision row, t => t.insertRevision row
  | .insertProcess row, t => t.insertProcess row
  | .insertMapping row, t => t.insertMapping row
  | .insertDeployment row, t => t.insertDeployment row
  | .updateDeployment row, t => t.updateDeployment row
  | .deleteDeployment guid, t => t.deleteDeployment guid
  | .insertHistory row, t => t.insertHistory row
  | _, t => .ok t

/-- What an operation answers unless its change is refused. -/
def answer : Operation → Tables → Except StoreError Answer
  | .app guid, t =>
    match t.app? guid with
    | some a => .ok (.app a)
    | none => .error (.appNotFound guid.text)
  | .appGuids, t => .ok (.appGuids t.appGuids)
  | .droplet guid, t => .ok (.droplet (t.droplet? guid))
  | .revisions guid, t => .ok (.revisions (t.revisionsOf guid))
  | .process guid, t => .ok (.process (t.process? guid))
  | .processes guid, t => .ok (.processes (t.processesOf guid))
  | .mappings guid, t => .ok (.mappings (t.mappingsOf guid))
  | .deployment guid, t => .ok (.deployment (t.deployment? guid))
  | .deployments guid, t => .ok (.deployments (t.deploymentsOf guid))
  | .history guid, t => .ok (.history (t.historyOf guid))
  | _, _ => .ok .done

lemma change_eq (f : Tables → Except StoreError Tables) (t : Tables) :
    change f t = match f t with | .ok t' => (.ok .done, t') | .error e => (.error e, t) := by
  unfold change Tx.change
  cases h : f t <;> simp only [bind, ExceptT.bind, ExceptT.mk, StateT.bind, h] <;> rfl

lemma run_eq (op : Operation) (t : Tables) :
    op.run t = match op.effect t with
      | .ok t' => (op.answer t, t')
      | .error e => (.error e, t) := by
  cases op with
  | app guid =>
    unfold run Tx.app effect answer
    cases h : t.app? guid <;> simp only [bind, ExceptT.bind, ExceptT.mk, StateT.bind, h] <;> rfl
  | insertApp row | updateApp row | insertDroplet row | insertRevision row | insertProcess row
  | insertMapping row | insertDeployment row | updateDeployment row | insertHistory row =>
    exact change_eq _ t
  | deleteDeployment guid =>
    rw [run, Tx.deleteDeployment_eq]
    exact change_eq _ t
  | _ => rfl

lemma run_snd (op : Operation) (t : Tables) :
    (op.run t).2 = match op.effect t with | .ok t' => t' | .error _ => t := by
  rw [run_eq]
  split <;> rfl

end Operation

end Rollout
