import Rollout.Proofs.Deploy.RolledOut
import Rollout.Proofs.Deploy.Sweep
import Rollout.Proofs.Store.Slice

/-! Creations and sweeps need the slice of their own app, and change no other. -/

namespace Rollout

attribute [ext] Tables

variable {t t' : Tables} {app a : AppGuid} {droplet : Option DropletGuid} {l : Launch}
variable {draws : CreateDraws} {guid : RevisionGuid} {time : Instant} {r : Revision}
variable {user : UserAuditInfo} {limit : Nat}

lemma CreateDraws.New.slice (h : draws.New t) : draws.New (t.slice app) where
  deployment := fun hm => h.deployment (of_mem_filter_key hm)
  process := fun hm => h.process (of_mem_filter_key hm)
  routes := fun hm => h.routes (of_mem_filter_key hm)
  mappings := fun n hm => h.mappings n (of_mem_filter_key hm)
  injective := h.injective

lemma CreateDraws.New.without (h : draws.New t) (guids : List DeploymentGuid) :
    draws.New (t.without guids) :=
  { h with deployment := fun hm => h.deployment (of_mem_filter_key hm) }

lemma CreateDraws.New.rolledOut {other : CreateDraws} (h : other.New t)
    (hdeployment : draws.deploymentGuid ≠ other.deploymentGuid)
    (hprocess : draws.processGuid ≠ other.processGuid)
    (hmappings : ∀ m n, draws.mappings.guid m ≠ other.mappings.guid n) :
    other.New (l.rolledOut draws r t) where
  deployment := by
    have hd := h.deployment
    rw [← Deployment.superseded_guids] at hd
    simpa [Launch.rolledOut, Launch.successor, Launch.deployment, hdeployment.symm] using hd
  process := by
    have hp := h.process
    simpa [Launch.rolledOut, Launch.shadow, AppProcess.replicate, hprocess.symm] using hp
  routes := by
    intro hm
    obtain ⟨m, hm, he⟩ := List.mem_map.mp hm
    rcases List.mem_append.mp hm with hm | hm
    · exact h.routes (List.mem_map.mpr ⟨m, hm, he⟩)
    · exact hprocess ((RouteMapping.mem_planted hm).1.symm.trans he)
  mappings := by
    intro n hm
    obtain ⟨m, hm, he⟩ := List.mem_map.mp hm
    rcases List.mem_append.mp hm with hm | hm
    · exact h.mappings n (List.mem_map.mpr ⟨m, hm, he⟩)
    · obtain ⟨i, hi⟩ := (RouteMapping.mem_planted hm).2
      exact hmappings i n (hi.symm.trans he)
  injective := h.injective

namespace Tables

lemma launch?_slice : (t.slice app).launch? app droplet = t.launch? app droplet := by
  rw [launch?, app?_slice, launch?]
  cases ha : t.app? app with
  | none => rfl
  | some b =>
    have hb : b.guid = app := (of_find_key ha).2
    have hweb : (t.slice app).oldestWeb? b.guid = t.oldestWeb? b.guid := by
      rw [oldestWeb?, hb, processesOf_slice, oldestWeb?]
    have hassign : (t.slice app).assignable? b.guid droplet = t.assignable? b.guid droplet := rfl
    simp only [hassign, hweb]

lemma instancesFor_slice (h : l.app.guid = app) :
    (t.slice app).instancesFor l = t.instancesFor l := by
  rw [instancesFor, inFlight, h, deploymentsOf_slice, instancesFor, inFlight, h]

lemma missing_slice {source target : ProcessGuid} (hs : source ∈ t.processGuids app)
    (ht : target ∉ t.routeMappings.map (·.process)) :
    (t.slice app).missing source target = t.missing source target := by
  have hnone : t.routeMappings.filter (·.process = target) = [] := filter_key_eq_nil ht
  have hnone' : (t.slice app).routeMappings.filter (·.process = target) = [] :=
    filter_key_eq_nil fun hm => ht (of_mem_filter_key hm)
  have hslice : (t.slice app).mappingsOf target = t.mappingsOf target := by
    rw [mappingsOf, hnone', mappingsOf, hnone]
  rw [missing, hslice, mappingsOf_slice hs, missing]

end Tables

lemma Revision.next_slice {b : App} {c : Droplet} (h : b.guid = app) :
    next guid time (t.slice app) b c = next guid time t b c := by
  rw [next, h, Tables.revisionsOf_slice, next, h]

namespace Launch

lemma successor_slice (h : l.app.guid = app) :
    l.successor draws r (t.slice app) = l.successor draws r t := by
  rw [successor, Tables.instancesFor_slice h, successor]

lemma rolledOut_processes (hweb : l.web.app = app) :
    (l.rolledOut draws r t).processes.filter (·.app = app) =
      t.processes.filter (·.app = app) ++ [l.shadow draws (l.successor draws r t)] := by
  have hs : (l.shadow draws (l.successor draws r t)).app = app := hweb
  simp [rolledOut, List.filter_append, hs]

lemma rolledOut_deployments (h : l.app.guid = app) :
    (l.rolledOut draws r t).deployments.filter (·.app = app) =
      (t.deployments.filter (·.app = app)).map (Deployment.superseded draws.time app) ++
        [l.successor draws r t] := by
  have hs : (l.successor draws r t).app = app := h
  simp [rolledOut, List.filter_append, hs, h, Deployment.filter_superseded]

lemma rolledOut_mappings (hweb : l.web.app = app)
    (hnew : draws.processGuid ∉ t.routeMappings.map (·.process)) :
    (l.rolledOut draws r t).routeMappings.filter
        (·.process ∈ (l.rolledOut draws r t).processGuids app) =
      t.routeMappings.filter (·.process ∈ t.processGuids app) ++
        RouteMapping.planted draws.mappings draws.processGuid 0
          (t.missing l.web.guid draws.processGuid) := by
  have hguids : (l.rolledOut draws r t).processGuids app =
      t.processGuids app ++ [draws.processGuid] := by
    rw [Tables.processGuids, rolledOut_processes hweb, List.map_append]
    rfl
  have hrows : (l.rolledOut draws r t).routeMappings = t.routeMappings ++
      RouteMapping.planted draws.mappings draws.processGuid 0
        (t.missing l.web.guid draws.processGuid) := rfl
  rw [hguids, hrows, List.filter_append]
  congr 1
  -- No mapping led to the new process before, and all the new ones do.
  · apply List.filter_congr
    intro m hm
    have hne : m.process ≠ draws.processGuid := fun he => hnew (List.mem_map.mpr ⟨m, hm, he⟩)
    simp only [List.mem_append, List.mem_singleton, hne, or_false]
  · rw [List.filter_eq_self]
    intro m hm
    simp [(RouteMapping.mem_planted hm).1]

lemma rolledOut_history (h : l.app.guid = app) (hi : t.Intact)
    (hnew : draws.deploymentGuid ∉ t.deployments.map (·.guid)) :
    (l.rolledOut draws r t).historicalProcesses.filter
        (·.deployment ∈ (l.rolledOut draws r t).deploymentGuids app) =
      t.historicalProcesses.filter (·.deployment ∈ t.deploymentGuids app) ++
        [l.record draws (l.successor draws r t)] := by
  have hguids : (l.rolledOut draws r t).deploymentGuids app =
      t.deploymentGuids app ++ [draws.deploymentGuid] := by
    rw [Tables.deploymentGuids, rolledOut_deployments h, List.map_append,
      Deployment.superseded_guids]
    rfl
  have hrows : (l.rolledOut draws r t).historicalProcesses =
      t.historicalProcesses ++ [l.record draws (l.successor draws r t)] := rfl
  rw [hguids, hrows, List.filter_append]
  congr 1
  · apply List.filter_congr
    intro x hx
    have hne : x.deployment ≠ draws.deploymentGuid := fun he => hnew (he ▸ hi.history x hx)
    simp only [List.mem_append, List.mem_singleton, hne, or_false]
  · rw [List.filter_eq_self]
    intro x hx
    have hx : x.deployment = draws.deploymentGuid := by
      rw [List.mem_singleton.mp hx]
      rfl
    simp [hx]

/-- A rollout writes into the slice of its app what it would write if that were all there is. -/
lemma rolledOut_slice (hl : t.launch? app droplet = .ok l) (hi : t.Intact) (hnew : draws.New t)
    (happ : r.app = app) :
    (l.rolledOut draws r t).slice app = l.rolledOut draws r (t.slice app) := by
  have hguid : l.app.guid = app := (Tables.app_of_launch? hl).2
  obtain ⟨hstored, hweb, -⟩ := Tables.web_of_launch? hl
  have hmissing : (t.slice app).missing l.web.guid draws.processGuid =
      t.missing l.web.guid draws.processGuid :=
    Tables.missing_slice (Tables.mem_processGuids hstored hweb) hnew.routes
  have happs : (replaceFirst (·.guid = app) l.assigned t.apps).filter (·.guid = app) =
      replaceFirst (·.guid = app) l.assigned (t.apps.filter (·.guid = app)) :=
    filter_replaceFirst (decide_eq_true hguid)
  apply Tables.ext
  · simp only [Tables.slice, rolledOut, hguid, happs]
  · rfl
  · simp [Tables.slice, rolledOut, List.filter_append, happ]
  · refine (rolledOut_processes hweb).trans ?_
    rw [← successor_slice hguid]
    rfl
  · refine (rolledOut_mappings hweb hnew.routes).trans ?_
    rw [← hmissing]
    rfl
  · refine (rolledOut_deployments hguid).trans ?_
    rw [← successor_slice hguid, ← hguid]
    rfl
  · refine (rolledOut_history hguid hi hnew.deployment).trans ?_
    rw [← successor_slice hguid]
    rfl

lemma rolledOut_slice_other (hne : l.app.guid ≠ a) (hweb : l.web.app ≠ a)
    (hp : draws.processGuid ∉ t.processes.map (·.guid))
    (hd : draws.deploymentGuid ∉ t.deployments.map (·.guid)) (happ : r.app ≠ a) :
    (l.rolledOut draws r t).slice a = t.slice a := by
  have hshadow : (l.shadow draws (l.successor draws r t)).app ≠ a := hweb
  have hsuccessor : (l.successor draws r t).app ≠ a := hne
  have hprocesses : (l.rolledOut draws r t).processes.filter (·.app = a) =
      t.processes.filter (·.app = a) := by
    simp [rolledOut, List.filter_append, hshadow]
  have hdeployments : (l.rolledOut draws r t).deployments.filter (·.app = a) =
      t.deployments.filter (·.app = a) := by
    simp [rolledOut, List.filter_append, hsuccessor, Deployment.filter_superseded_other hne]
  have happs : (replaceFirst (·.guid = l.app.guid) l.assigned t.apps).filter (·.guid = a) =
      t.apps.filter (·.guid = a) := by
    refine filter_replaceFirst_of_not (decide_eq_false hne) fun b _ hb => ?_
    exact decide_eq_false (of_decide_eq_true hb ▸ hne)
  have hmappings : (RouteMapping.planted draws.mappings draws.processGuid 0
      (t.missing l.web.guid draws.processGuid)).filter (·.process ∈ t.processGuids a) = [] := by
    rw [List.filter_eq_nil_iff]
    intro m hm he
    have hg : draws.processGuid ∈ t.processGuids a :=
      (RouteMapping.mem_planted hm).1 ▸ of_decide_eq_true he
    exact hp (of_mem_filter_key hg)
  have hrecord : draws.deploymentGuid ∉ t.deploymentGuids a := fun hm => hd (of_mem_filter_key hm)
  apply Tables.ext
  · exact happs
  · rfl
  · simp [Tables.slice, rolledOut, List.filter_append, happ]
  · exact hprocesses
  · rw [Tables.slice, Tables.processGuids, hprocesses, ← Tables.processGuids, rolledOut]
    dsimp only
    rw [List.filter_append, hmappings, List.append_nil]
    rfl
  · exact hdeployments
  · rw [Tables.slice, Tables.deploymentGuids, hdeployments, ← Tables.deploymentGuids, rolledOut]
    simp [List.filter_append, record, successor, deployment, hrecord, Tables.slice]

end Launch

namespace Tables

variable {guids : List DeploymentGuid}

lemma doomed_slice : (t.slice app).doomed app limit = t.doomed app limit := by
  rw [doomed, deploymentsOf_slice, doomed]

lemma mem_deploymentGuids_without {g : DeploymentGuid} :
    g ∈ (t.without guids).deploymentGuids app ↔ g ∉ guids ∧ g ∈ t.deploymentGuids app := by
  simp only [deploymentGuids, without, List.mem_map, List.mem_filter, decide_eq_true_eq]
  constructor
  · rintro ⟨d, ⟨⟨hd, hnot⟩, ha⟩, rfl⟩
    exact ⟨hnot, d, ⟨hd, ha⟩, rfl⟩
  · rintro ⟨hnot, d, ⟨hd, ha⟩, rfl⟩
    exact ⟨d, ⟨⟨hd, hnot⟩, ha⟩, rfl⟩

lemma without_slice : (t.without guids).slice app = (t.slice app).without guids := by
  apply Tables.ext <;> try rfl
  · exact List.filter_comm _ _ _
  · simp only [slice, mem_deploymentGuids_without]
    simp only [without, List.filter_filter]
    apply List.filter_congr
    intro x _
    by_cases hx : x.deployment ∈ guids <;> simp [hx]

lemma without_slice_other (h : ∀ g ∈ guids, g ∉ t.deploymentGuids a) :
    (t.without guids).slice a = t.slice a := by
  rw [without_slice]
  apply Tables.ext <;> try rfl
  · refine List.filter_eq_self.mpr fun d hd => decide_eq_true fun hm => ?_
    exact h _ hm (List.mem_map_of_mem hd)
  · refine List.filter_eq_self.mpr fun x hx => decide_eq_true fun hm => ?_
    exact h _ hm (of_decide_eq_true (List.mem_filter.mp hx).2)

lemma doomed_other (hi : t.Intact) (hne : app ≠ a) :
    ∀ g ∈ (t.doomed app limit).map (·.guid), g ∉ t.deploymentGuids a := by
  intro g hg hm
  obtain ⟨d, hd, rfl⟩ := List.mem_map.mp hg
  obtain ⟨hstored, happ, -⟩ := mem_doomed hd
  obtain ⟨x, hx, he⟩ := List.mem_map.mp hm
  obtain ⟨hx, hxa⟩ := List.mem_filter.mp hx
  obtain rfl := List.inj_on_of_nodup_map hi.deployments hx hstored he
  exact hne (happ.symm.trans (of_decide_eq_true hxa))

end Tables

namespace Deployment

lemma pruneIn_local (hi : t.Intact) : (pruneIn app limit).Local app t := by
  unfold Tx.Local
  rw [pruneIn_intact hi, pruneIn_intact hi.slice, Tables.doomed_slice]
  dsimp only
  rw [Tables.without_slice]

lemma pruneIn_other (hi : t.Intact) (hne : app ≠ a) {n : Nat}
    (h : pruneIn app limit t = (.ok n, t')) : t'.slice a = t.slice a := by
  obtain ⟨-, rfl⟩ := pruneIn_ok h
  exact Tables.without_slice_other (Tables.doomed_other hi hne)

lemma createIn_local (hi : t.Intact) (hnew : draws.New t) (hg : guid ∉ t.revisions.map (·.guid)) :
    (createIn draws (Revision.sequential guid time) app droplet user).Local app t := by
  have hg' : guid ∉ (t.slice app).revisions.map (·.guid) := fun hm => hg (of_mem_filter_key hm)
  unfold Tx.Local
  cases hl : t.launch? app droplet with
  | error e =>
    have he : (createIn draws (Revision.sequential guid time) app droplet user t).1 = .error e :=
      createIn_refused hl
    rcases hc : createIn draws (Revision.sequential guid time) app droplet user t with ⟨x, u⟩
    rw [hc] at he
    cases he
    exact createIn_refused (Tables.launch?_slice.trans hl)
  | ok l =>
    have happ : l.app.guid = app := (Tables.app_of_launch? hl).2
    rw [createIn_total hi hnew hg hl,
      createIn_total hi.slice hnew.slice hg' (Tables.launch?_slice.trans hl)]
    dsimp only
    rw [Revision.next_slice happ, Launch.successor_slice happ,
      Launch.rolledOut_slice hl hi hnew happ]

lemma createIn_other (hi : t.Intact) (hne : app ≠ a) {x : Deployment × AuditEvent}
    (h : createIn draws (Revision.sequential guid time) app droplet user t = (.ok x, t')) :
    t'.slice a = t.slice a := by
  obtain ⟨l, hl, hd, hp, -, -, rfl⟩ := createIn_rolledOut hi.deployments h
  have happ : l.app.guid ≠ a := (Tables.app_of_launch? hl).2.trans_ne hne
  have hweb : l.web.app ≠ a := (Tables.web_of_launch? hl).2.1.trans_ne hne
  exact Launch.rolledOut_slice_other happ hweb hp hd happ

end Deployment

end Rollout
