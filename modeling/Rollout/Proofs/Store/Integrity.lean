import Rollout.Proofs.Store.Transaction

/-! What holds of tables however they were filled through the operations. -/

namespace Rollout

namespace Tables

/-- Guids tell rows apart, a route leads to a process once, and history is of stored deployments. -/
structure Intact (t : Tables) : Prop where
  apps : (t.apps.map (·.guid)).Nodup
  droplets : (t.droplets.map (·.guid)).Nodup
  revisions : (t.revisions.map (·.guid)).Nodup
  processes : (t.processes.map (·.guid)).Nodup
  mappings : (t.routeMappings.map (·.guid)).Nodup
  routes : (t.routeMappings.map fun m => (m.route, m.process)).Nodup
  deployments : (t.deployments.map (·.guid)).Nodup
  history : ∀ h ∈ t.historicalProcesses, h.deployment ∈ t.deployments.map (·.guid)

/-- The tables that operations lead to from none at all, failed operations among them. -/
inductive Built : Tables → Prop
  | empty : Built .empty
  | step {t : Tables} (op : Operation) : Built t → Built (op.run t).2

/-- A property that no operation among `P` ends. -/
def Lasting (P : Operation → Prop) (I : Tables → Prop) : Prop :=
  ∀ (op : Operation) (t u : Tables), P op → I t → op.effect t = .ok u → I u

variable {P : Operation → Prop} {I : Tables → Prop} {t : Tables}

lemma Lasting.run (hI : Lasting P I) {op : Operation} (hop : P op) (h : I t) : I (op.run t).2 := by
  rw [op.run_snd]
  split
  · next u he => exact hI op t u hop h he
  · exact h

lemma keeps_effect {ε : Type} {wrap : StoreError → ε} (hI : Lasting (fun _ => True) I)
    (op : Operation) : (Tx.change wrap op.effect).Keeps I :=
  Tx.keeps_change fun t u h he => hI op t u trivial h he

def after (ops : List Operation) : Tables := ops.foldl (fun t op => (op.run t).2) .empty

lemma built_after (ops : List Operation) : Built (after ops) := by
  have h : ∀ t, Built t → Built (ops.foldl (fun t op => (op.run t).2) t) := by
    induction ops with
    | nil => exact fun _ ht => ht
    | cons op ops ih => exact fun t ht => ih _ (ht.step op)
  exact h _ .empty

lemma intact_empty : Intact .empty := by
  constructor <;> simp [Tables.empty]

lemma lasting_intact : Lasting P Intact := by
  intro op t u _ h he
  cases op with
  | insertApp row =>
    obtain ⟨hn, rfl⟩ := insertApp_ok.mp he
    exact { h with apps := nodup_append_key h.apps hn }
  | updateApp row =>
    obtain ⟨-, rfl⟩ := updateApp_ok.mp he
    have hk : (replaceFirst (·.guid = row.guid) row t.apps).map (·.guid) = t.apps.map (·.guid) :=
      map_replaceFirst fun r _ hr => of_decide_eq_true hr
    exact { h with apps := hk ▸ h.apps }
  | insertDroplet row =>
    obtain ⟨hn, rfl⟩ := insertDroplet_ok.mp he
    exact { h with droplets := nodup_append_key h.droplets hn }
  | insertRevision row =>
    obtain ⟨hn, rfl⟩ := insertRevision_ok.mp he
    exact { h with revisions := nodup_append_key h.revisions hn }
  | insertProcess row =>
    obtain ⟨hn, rfl⟩ := insertProcess_ok.mp he
    exact { h with processes := nodup_append_key h.processes hn }
  | insertMapping row =>
    obtain ⟨hn, hr, rfl⟩ := insertMapping_ok.mp he
    exact { h with
      mappings := nodup_append_key h.mappings hn
      routes := nodup_append_key h.routes hr }
  | insertDeployment row =>
    obtain ⟨hn, rfl⟩ := insertDeployment_ok.mp he
    refine { h with deployments := nodup_append_key h.deployments hn, history := ?_ }
    intro r hr
    rw [List.map_append]
    exact List.mem_append_left _ (h.history r hr)
  | updateDeployment row =>
    obtain ⟨-, rfl⟩ := updateDeployment_ok.mp he
    have hk : (replaceFirst (·.guid = row.guid) row t.deployments).map (·.guid) =
        t.deployments.map (·.guid) := map_replaceFirst fun r _ hr => of_decide_eq_true hr
    exact { h with deployments := hk ▸ h.deployments, history := hk ▸ h.history }
  | deleteDeployment guid =>
    obtain ⟨-, rfl⟩ := deleteDeployment_ok.mp he
    refine { h with deployments := nodup_filter_key h.deployments, history := ?_ }
    intro r hr
    obtain ⟨hr, hg⟩ := List.mem_filter.mp hr
    obtain ⟨d, hd, hdr⟩ := List.mem_map.mp (h.history r hr)
    refine List.mem_map.mpr ⟨d, List.mem_filter.mpr ⟨hd, ?_⟩, hdr⟩
    rwa [hdr]
  | insertHistory row =>
    obtain ⟨hm, rfl⟩ := insertHistory_ok.mp he
    refine { h with history := ?_ }
    intro r hr
    rcases List.mem_append.mp hr with hr | hr
    · exact h.history r hr
    · rwa [List.mem_singleton.mp hr]
  | _ =>
    cases he
    exact h

lemma Built.intact (h : Built t) : Intact t := by
  induction h with
  | empty => exact intact_empty
  | step op _ ih => exact (lasting_intact (P := fun _ => True)).run trivial ih

end Tables

end Rollout
