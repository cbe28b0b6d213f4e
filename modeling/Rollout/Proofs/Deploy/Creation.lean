import Rollout.Proofs.Deploy.Routes
import Rollout.Proofs.Deploy.Succession

/-! What a creation writes if it succeeds. -/

namespace Rollout

namespace Launch

variable (l : Launch) (draws : CreateDraws)

def written (ending : List Deployment) (d : Deployment) (t : Tables) : Tables :=
  { t with
    processes := t.processes ++ [l.shadow draws d]
    routeMappings := t.routeMappings ++
      RouteMapping.planted draws.mappings draws.processGuid 0
        (t.missing l.web.guid draws.processGuid)
    deployments := Deployment.endAll draws.time ending t.deployments ++ [d]
    historicalProcesses := t.historicalProcesses ++ [l.record draws d] }

end Launch

/-- The guids occur nowhere in the tables, and no two mappings get the same one. -/
structure CreateDraws.New (draws : CreateDraws) (t : Tables) : Prop where
  deployment : draws.deploymentGuid ∉ t.deployments.map (·.guid)
  process : draws.processGuid ∉ t.processes.map (·.guid)
  routes : draws.processGuid ∉ t.routeMappings.map (·.process)
  mappings : ∀ n, draws.mappings.guid n ∉ t.routeMappings.map (·.guid)
  injective : Function.Injective draws.mappings.guid

namespace Deployment

variable {t t' : Tables} {draws : CreateDraws} {user : UserAuditInfo} {l : Launch}
variable {ending : List Deployment} {d : Deployment} {revisions : RevisionCreator}
variable {appGuid : AppGuid} {droplet : Option DropletGuid}

/-- What a creation does once it has its revision; the rollouts of `ending` make way. -/
def writing (draws : CreateDraws) (user : UserAuditInfo) (l : Launch) (ending : List Deployment)
    (d : Deployment) : Tx DeployError (Deployment × AuditEvent) := do
  Tx.change .store (·.insertProcess (l.shadow draws d))
  let _ ← (RouteMapping.carryOver draws.mappings l.web.guid draws.processGuid).mapError .store
  supersede draws.time ending
  Tx.change .store (·.insertDeployment d)
  Tx.change .store (·.insertHistory (l.record draws d))
  return (d, l.event draws user d)

lemma writing_ok {r : Deployment × AuditEvent}
    (h : writing draws user l ending d t = (.ok r, t')) :
    draws.processGuid ∉ t.processes.map (·.guid) ∧ d.guid ∉ t.deployments.map (·.guid) ∧
      r = (d, l.event draws user d) ∧ t' = l.written draws ending d t := by
  simp only [writing, Tx.bind_ok, Tx.change_ok, Tx.pure_ok, Tx.mapError_ok, supersede_ok,
    Tables.insertProcess_ok, Tables.insertDeployment_ok, Tables.insertHistory_ok] at h
  obtain ⟨_, u, ⟨hp, rfl⟩, n, v, hm, _, w, ⟨-, rfl⟩, _, x, ⟨hd, rfl⟩, _, y, ⟨-, rfl⟩, rfl, rfl⟩ := h
  obtain ⟨-, rfl⟩ := RouteMapping.carryOver_ok hm
  exact ⟨hp, endAll_guids ▸ hd, rfl, rfl⟩

/-- With guids that are new to the tables nothing is refused. -/
lemma writing_total (ht : t.Intact) (hnew : draws.New t) (hd : d.guid = draws.deploymentGuid)
    (hending : ∀ x ∈ ending, x.guid ∈ t.deployments.map (·.guid)) :
    writing draws user l ending d t =
      (.ok (d, l.event draws user d), l.written draws ending d t) := by
  let v : Tables := { t with processes := t.processes ++ [l.shadow draws d] }
  have hi : v.Intact := { ht with processes := nodup_append_key ht.processes hnew.process }
  have hc : RouteMapping.carryOver draws.mappings l.web.guid draws.processGuid v = (.ok _, _) :=
    RouteMapping.carryOver_total hi hnew.injective hnew.mappings
  simp only [writing, Tx.bind_ok, Tx.change_ok, Tx.pure_ok, Tx.mapError_ok, supersede_ok,
    Tables.insertProcess_ok, Tables.insertDeployment_ok, Tables.insertHistory_ok]
  refine ⟨(), v, ⟨hnew.process, rfl⟩, _, _, hc, (), _, ⟨hending, rfl⟩, (), _, ⟨?_, rfl⟩, (), _,
    ⟨?_, rfl⟩, trivial, rfl⟩
  · rw [hd]
    exact endAll_guids.symm ▸ hnew.deployment
  · rw [List.map_append]
    exact List.mem_append_right _ (List.mem_singleton.mpr rfl)

lemma change_withApp {a : App} (h : a.guid ∈ t.apps.map (·.guid)) :
    Tx.change DeployError.store (·.updateApp a) t = (.ok (), t.withApp a) :=
  Tx.change_ok.mpr (Tables.updateApp_ok.mpr ⟨h, rfl⟩)

lemma createIn_launched (h : t.launch? appGuid droplet = .ok l) :
    createIn draws revisions appGuid droplet user t =
      (revisions l.assigned l.droplet >>= fun r =>
        writing draws user l (t.inFlight l.app.guid) (l.deployment draws (t.instancesFor l) r))
        (t.withApp l.assigned) := by
  obtain ⟨ha, hd, hw⟩ := Tables.launch?_ok.mp h
  have happ : l.assigned.guid ∈ t.apps.map (·.guid) :=
    List.mem_map.mpr ⟨l.app, (Tables.app_of_launch? h).1, rfl⟩
  have hweb : oldestWebProcess l.assigned (t.withApp l.assigned) =
      (.ok l.web, t.withApp l.assigned) := oldestWebProcess_ok.mpr ⟨hw, rfl⟩
  refine (Tx.bind_of_ok (Tx.app_ok.mpr ⟨ha, rfl⟩)).trans ?_
  refine (Tx.bind_of_ok (assignableDroplet_ok.mpr ⟨hd, rfl⟩)).trans ?_
  refine (Tx.bind_of_ok (change_withApp happ)).trans ?_
  refine (Tx.bind_of_ok hweb).trans ?_
  exact Tx.bind_of_ok (Tx.ask_ok.mpr ⟨rfl, rfl⟩)

lemma createIn_refused {e : DeployError} (h : t.launch? appGuid droplet = .error e) :
    (createIn draws revisions appGuid droplet user t).1 = .error e := by
  unfold Tables.launch? at h
  split at h
  · next ha =>
    cases h
    apply Tx.bind_error
    simp only [Tx.app, ha]
  · next a ha =>
    refine (congrArg Prod.fst (Tx.bind_of_ok (Tx.app_ok.mpr ⟨ha, rfl⟩))).trans ?_
    split at h
    · next hd =>
      cases h
      apply Tx.bind_error
      rw [assignableDroplet_apply, hd]
    · next c hd =>
      refine (congrArg Prod.fst (Tx.bind_of_ok (assignableDroplet_ok.mpr ⟨hd, rfl⟩))).trans ?_
      split at h
      · next hw =>
        cases h
        have happ : a.guid ∈ t.apps.map (·.guid) := List.mem_map_of_mem (of_find_key ha).1
        have hchange := change_withApp (a := { a with droplet := some c.guid }) happ
        refine (congrArg Prod.fst (Tx.bind_of_ok hchange)).trans ?_
        apply Tx.bind_error
        rw [oldestWebProcess_apply]
        have hnone : (t.withApp { a with droplet := some c.guid }).oldestWeb? a.guid = none := hw
        rw [hnone]
      · cases h

lemma createIn_ok {r : Deployment × AuditEvent}
    (h : createIn draws revisions appGuid droplet user t = (.ok r, t')) :
    ∃ l n u, t.launch? appGuid droplet = .ok l ∧
      revisions l.assigned l.droplet (t.withApp l.assigned) = (.ok n, u) ∧
      r.1 = l.deployment draws (t.instancesFor l) n ∧ r.2 = l.event draws user r.1 ∧
      draws.processGuid ∉ u.processes.map (·.guid) ∧ r.1.guid ∉ u.deployments.map (·.guid) ∧
      t' = l.written draws (t.inFlight l.app.guid) r.1 u := by
  cases hl : t.launch? appGuid droplet with
  | error e =>
    have he : (createIn draws revisions appGuid droplet user t).1 = .error e := createIn_refused hl
    rw [h] at he
    cases he
  | ok l =>
    rw [createIn_launched hl, Tx.bind_ok] at h
    obtain ⟨n, u, hr, hw⟩ := h
    obtain ⟨hp, hd, rfl, ht⟩ := writing_ok hw
    exact ⟨l, n, u, rfl, hr, rfl, rfl, hp, hd, ht⟩

lemma createIn_app {r : Deployment × AuditEvent}
    (h : createIn draws revisions appGuid droplet user t = (.ok r, t')) : r.1.app = appGuid := by
  obtain ⟨l, n, u, hl, -, hd, -⟩ := createIn_ok h
  rw [hd]
  exact (Tables.app_of_launch? hl).2

lemma createIn_keeps {I : Tables → Prop} (hI : Tables.Lasting (fun _ => True) I)
    (hrev : ∀ app droplet, (revisions app droplet).Keeps I) :
    (createIn draws revisions appGuid droplet user).Keeps I := by
  refine Tx.keeps_bind (Tx.keeps_app _ _) fun app => ?_
  refine Tx.keeps_bind assignableDroplet_keeps fun droplet => ?_
  refine Tx.keeps_bind (Tables.keeps_effect hI (.updateApp _)) fun _ => ?_
  refine Tx.keeps_bind oldestWebProcess_keeps fun web => ?_
  refine Tx.keeps_bind (Tx.keeps_ask _) fun listing => ?_
  refine Tx.keeps_bind (hrev _ _) fun r => ?_
  refine Tx.keeps_bind (Tables.keeps_effect hI (.insertProcess _)) fun _ => ?_
  refine Tx.keeps_bind (Tx.keeps_mapError (RouteMapping.carryOver_keeps hI)) fun _ => ?_
  refine Tx.keeps_bind (supersede_keeps hI) fun _ => ?_
  refine Tx.keeps_bind (Tables.keeps_effect hI (.insertDeployment _)) fun _ => ?_
  refine Tx.keeps_bind (Tables.keeps_effect hI (.insertHistory _)) fun _ => ?_
  exact Tx.keeps_pure _

section Store

variable {σ : Type} {store store' : Store} {sink : AuditSink σ} {log log' : σ} {app : AppGuid}

lemma create_ok {d : Deployment} :
    create store sink log draws revisions app droplet user = (.ok d, store', log') ↔
      store.available = true ∧ ∃ e t,
        createIn draws revisions app droplet user store.tables = (.ok (d, e), t) ∧
        sink e log = (.ok (), log') ∧ store' = { store with tables := t } := by
  constructor
  · intro h
    unfold create at h
    split at h
    · cases h
    · next c e s ht =>
      split at h
      · cases h
      · next hs =>
        cases h
        obtain ⟨ha, t, hc, rfl⟩ := Store.transaction_ok.mp ht
        exact ⟨ha, e, t, hc, hs, rfl⟩
  · rintro ⟨ha, e, t, hc, hs, rfl⟩
    have ht : store.transaction .store (createIn draws revisions app droplet user) =
        (.ok (d, e), { store with tables := t }) := Store.transaction_ok.mpr ⟨ha, t, hc, rfl⟩
    simp only [create, ht, hs]

lemma create_error {e : DeployError}
    (h : create store sink log draws revisions app droplet user = (.error e, store', log')) :
    store' = store ∧ (log' = log ∨ ∃ event x, sink event log = (.error x, log')) := by
  unfold create at h
  split at h
  · cases h
    exact ⟨rfl, .inl rfl⟩
  · next c event s _ =>
    split at h
    · next x _ hs =>
      cases h
      exact ⟨rfl, .inr ⟨event, x, hs⟩⟩
    · cases h

lemma create_available :
    (create store sink log draws revisions app droplet user).2.1.available = store.available := by
  rcases h : create store sink log draws revisions app droplet user with ⟨e | d, store', log'⟩
  · obtain ⟨rfl, -⟩ := create_error h
    rfl
  · obtain ⟨-, e, t, -, -, rfl⟩ := create_ok.mp h
    rfl

variable {I : Tables → Prop}

lemma create_keeps (h : I store.tables)
    (hI : ∀ x t, createIn draws revisions app droplet user store.tables = (.ok x, t) → I t) :
    I (create store sink log draws revisions app droplet user).2.1.tables := by
  rcases hc : create store sink log draws revisions app droplet user with ⟨e | d, store', log'⟩
  · obtain ⟨rfl, -⟩ := create_error hc
    exact h
  · obtain ⟨-, e, t, ht, -, rfl⟩ := create_ok.mp hc
    exact hI _ t ht

end Store

end Deployment

end Rollout
