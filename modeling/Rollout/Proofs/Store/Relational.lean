import Rollout.Proofs.Store.Keyed
import Rollout.Proofs.Store.Script

/-! The store answers as finite maps do, one for each kind of record. -/

namespace Rollout

namespace Keyed

variable {kind : RecordKind} {α : Type}

def add (m : Keyed kind α) (record : String) (guid : Guid kind) (row : α) :
    Except StoreError (Keyed kind α) :=
  if (m.find? guid).isSome then .error (.duplicate record) else .ok (m.insert guid row)

def replace (m : Keyed kind α) (missing : StoreError) (guid : Guid kind) (row : α) :
    Except StoreError (Keyed kind α) :=
  if (m.find? guid).isSome then .ok (m.update guid row) else .error missing

end Keyed

structure Relations where
  apps : Keyed .app App
  droplets : Keyed .droplet Droplet
  revisions : Keyed .revision Revision
  processes : Keyed .process AppProcess
  routeMappings : Keyed .routeMapping RouteMapping
  deployments : Keyed .deployment Deployment
  history : DeploymentGuid → List HistoricalProcess

namespace Relations

def empty : Relations := ⟨.empty, .empty, .empty, .empty, .empty, .empty, fun _ => []⟩

def write (r : Relations) : Operation → Except StoreError Relations
  | .insertApp row =>
    (r.apps.add ("app " ++ row.guid.text) row.guid row).map fun apps => { r with apps }
  | .updateApp row =>
    (r.apps.replace (.appNotFound row.guid.text) row.guid row).map fun apps => { r with apps }
  | .insertDroplet row =>
    (r.droplets.add ("droplet " ++ row.guid.text) row.guid row).map fun droplets =>
      { r with droplets }
  | .insertRevision row =>
    (r.revisions.add ("revision " ++ row.guid.text) row.guid row).map fun revisions =>
      { r with revisions }
  | .insertProcess row =>
    (r.processes.add ("process " ++ row.guid.text) row.guid row).map fun processes =>
      { r with processes }
  | .insertMapping row =>
    let record := "route mapping " ++ row.route.text ++ " -> " ++ row.process.text
    if r.routeMappings.any fun n => n.route = row.route ∧ n.process = row.process then
      .error (.duplicate record)
    else
      (r.routeMappings.add record row.guid row).map fun routeMappings => { r with routeMappings }
  | .insertDeployment row =>
    (r.deployments.add ("deployment " ++ row.guid.text) row.guid row).map fun deployments =>
      { r with deployments }
  | .updateDeployment row =>
    (r.deployments.replace (.deploymentNotFound row.guid.text) row.guid row).map fun deployments =>
      { r with deployments }
  | .deleteDeployment guid =>
    if (r.deployments.find? guid).isSome then
      .ok { r with
        deployments := r.deployments.delete guid
        history := Function.update r.history guid [] }
    else .error (.deploymentNotFound guid.text)
  | .insertHistory row =>
    if (r.deployments.find? row.deployment).isSome then
      .ok { r with
        history := Function.update r.history row.deployment (r.history row.deployment ++ [row]) }
    else .error (.deploymentNotFound row.deployment.text)
  | _ => .ok r

def read (r : Relations) : Operation → Except StoreError Answer
  | .app guid =>
    match r.apps.find? guid with
    | some row => .ok (.app row)
    | none => .error (.appNotFound guid.text)
  | .appGuids =>
    .ok (.appGuids ((r.apps.ordered Numbered.earlier fun _ => true).map (·.guid)))
  | .droplet guid => .ok (.droplet (r.droplets.find? guid))
  | .revisions app =>
    .ok (.revisions (r.revisions.ordered (Numbered.older (·.createdAt)) (·.app = app)))
  | .process guid => .ok (.process (r.processes.find? guid))
  | .processes app =>
    .ok (.processes (r.processes.ordered (Numbered.older (·.createdAt)) (·.app = app)))
  | .mappings process =>
    .ok (.mappings (r.routeMappings.ordered (Numbered.older (·.createdAt)) (·.process = process)))
  | .deployment guid => .ok (.deployment (r.deployments.find? guid))
  | .deployments app =>
    .ok (.deployments (r.deployments.ordered (Numbered.older (·.createdAt)) (·.app = app)))
  | .history deployment => .ok (.history (r.history deployment))
  | _ => .ok .done

def respond (op : Operation) (r : Relations) : Except StoreError Answer × Relations :=
  match r.write op with
  | .ok r' => (r.read op, r')
  | .error e => (.error e, r)

/-- The same rows, in maps and in lists. -/
structure Represents (r : Relations) (t : Tables) : Prop where
  apps : r.apps.Holds (·.guid) t.apps
  droplets : r.droplets.Holds (·.guid) t.droplets
  revisions : r.revisions.Holds (·.guid) t.revisions
  processes : r.processes.Holds (·.guid) t.processes
  routeMappings : r.routeMappings.Holds (·.guid) t.routeMappings
  deployments : r.deployments.Holds (·.guid) t.deployments
  history : ∀ guid, r.history guid = t.historyOf guid

/-- Both are refused for the same reason, or neither is. -/
inductive Agrees {ε α β : Type} (R : α → β → Prop) : Except ε α → Except ε β → Prop
  | ok {a : α} {b : β} : R a b → Agrees R (.ok a) (.ok b)
  | error (e : ε) : Agrees R (.error e) (.error e)

section Changes

variable {kind : RecordKind} {α : Type} {m : Keyed kind α} {key : α → Guid kind} {rows : List α}
variable (put : Keyed kind α → Relations) (put' : List α → Tables)

lemma represents_add (h : m.Holds key rows)
    (hput : ∀ {m' rows'}, m'.Holds key rows' → (put m').Represents (put' rows'))
    (record : String) (row : α) :
    Agrees Represents ((m.add record (key row) row).map put)
      (if rows.any (key · = key row) then .error (.duplicate record)
        else .ok (put' (rows ++ [row]))) := by
  rw [Keyed.add, h.isSome_find?]
  split
  · exact .error _
  · next hnew => exact .ok (hput (h.insert fun hm => hnew (any_key_iff.mpr hm)))

lemma represents_replace (h : m.Holds key rows)
    (hput : ∀ {m' rows'}, m'.Holds key rows' → (put m').Represents (put' rows'))
    (missing : StoreError) (row : α) :
    Agrees Represents ((m.replace missing (key row) row).map put)
      (if rows.any (key · = key row) then .ok (put' (replaceFirst (key · = key row) row rows))
        else .error missing) := by
  rw [Keyed.replace, h.isSome_find?]
  split
  · exact .ok (hput (h.update row))
  · exact .error _

end Changes

variable {r : Relations} {t : Tables}

lemma represents_empty : empty.Represents .empty :=
  ⟨Keyed.holds_empty, Keyed.holds_empty, Keyed.holds_empty, Keyed.holds_empty, Keyed.holds_empty,
    Keyed.holds_empty, fun _ => rfl⟩

lemma Represents.read (h : r.Represents t) (op : Operation) : r.read op = op.answer t := by
  cases op with
  | app guid =>
    rw [Relations.read, h.apps.find?]
    rfl
  | appGuids =>
    rw [Relations.read, h.apps.inOrder]
    rfl
  | droplet guid =>
    rw [Relations.read, h.droplets.find?]
    rfl
  | revisions app =>
    rw [Relations.read, h.revisions.listing]
    rfl
  | process guid =>
    rw [Relations.read, h.processes.find?]
    rfl
  | processes app =>
    rw [Relations.read, h.processes.listing]
    rfl
  | mappings process =>
    rw [Relations.read, h.routeMappings.listing]
    rfl
  | deployment guid =>
    rw [Relations.read, h.deployments.find?]
    rfl
  | deployments app =>
    rw [Relations.read, h.deployments.listing]
    rfl
  | history deployment =>
    rw [Relations.read, h.history]
    rfl
  | _ => rfl

lemma Represents.add_mapping (h : r.Represents t) (row : RouteMapping) :
    Agrees Represents (r.write (.insertMapping row)) (t.insertMapping row) := by
  rw [write, h.routeMappings.any, Tables.insertMapping]
  by_cases hroute :
      t.routeMappings.any (fun n => n.route = row.route ∧ n.process = row.process) = true
  · have hclash : t.routeMappings.any (fun n => n.guid = row.guid ∨
        (n.route = row.route ∧ n.process = row.process)) = true := by
      obtain ⟨n, hn, hc⟩ := List.any_eq_true.mp hroute
      exact List.any_eq_true.mpr ⟨n, hn, decide_eq_true (.inr (of_decide_eq_true hc))⟩
    rw [if_pos hroute, if_pos hclash]
    exact .error _
  · have hclash : t.routeMappings.any (fun n => n.guid = row.guid ∨
        (n.route = row.route ∧ n.process = row.process)) =
        t.routeMappings.any fun n => n.guid = row.guid := by
      rw [Bool.eq_iff_iff, List.any_eq_true, List.any_eq_true]
      refine exists_congr fun n => and_congr_right fun hn => ?_
      have hfree : ¬ (n.route = row.route ∧ n.process = row.process) :=
        fun hc => hroute (List.any_eq_true.mpr ⟨n, hn, decide_eq_true hc⟩)
      simp only [hfree, or_false]
    rw [if_neg hroute, hclash]
    exact represents_add ({ r with routeMappings := · }) ({ t with routeMappings := · }) h.routeMappings
      (fun hm => { h with routeMappings := hm }) _ row

lemma Represents.write (h : r.Represents t) (op : Operation) :
    Agrees Represents (r.write op) (op.effect t) := by
  cases op with
  | insertApp row =>
    exact represents_add ({ r with apps := · }) ({ t with apps := · }) h.apps
      (fun hm => { h with apps := hm }) _ row
  | updateApp row =>
    exact represents_replace ({ r with apps := · }) ({ t with apps := · }) h.apps
      (fun hm => { h with apps := hm }) _ row
  | insertDroplet row =>
    exact represents_add ({ r with droplets := · }) ({ t with droplets := · }) h.droplets
      (fun hm => { h with droplets := hm }) _ row
  | insertRevision row =>
    exact represents_add ({ r with revisions := · }) ({ t with revisions := · }) h.revisions
      (fun hm => { h with revisions := hm }) _ row
  | insertProcess row =>
    exact represents_add ({ r with processes := · }) ({ t with processes := · }) h.processes
      (fun hm => { h with processes := hm }) _ row
  | insertMapping row => exact h.add_mapping row
  | insertDeployment row =>
    exact represents_add ({ r with deployments := · }) ({ t with deployments := · }) h.deployments
      (fun hm => { h with deployments := hm }) _ row
  | updateDeployment row =>
    exact represents_replace ({ r with deployments := · }) ({ t with deployments := · }) h.deployments
      (fun hm => { h with deployments := hm }) _ row
  | deleteDeployment guid =>
    rw [Relations.write, h.deployments.isSome_find?]
    change Agrees _ _ (t.deleteDeployment guid)
    rw [Tables.deleteDeployment]
    split
    · refine .ok { h with deployments := h.deployments.delete guid, history := ?_ }
      intro g
      dsimp only
      rw [Function.update_apply, Tables.historyOf, filter_filter_key, h.history]
      rfl
    · exact .error _
  | insertHistory row =>
    rw [Relations.write, h.deployments.isSome_find?]
    change Agrees _ _ (t.insertHistory row)
    rw [Tables.insertHistory]
    split
    · refine .ok { h with history := ?_ }
      intro g
      dsimp only
      rw [Function.update_apply, Tables.historyOf, List.filter_append, h.history, h.history]
      by_cases hg : g = row.deployment
      · simp [hg, Tables.historyOf]
      · simp [hg, Ne.symm hg, Tables.historyOf]
    · exact .error _
  | _ => exact .ok h

end Relations

end Rollout
