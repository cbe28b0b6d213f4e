import Rollout.Proofs.Deploy.RolledOut
import Rollout.Proofs.Run

/-! The rows of rollouts name each other. -/

namespace Rollout

/-- Others supply what rollouts are made of, and apps without a droplet. -/
def Operation.Supplies : Operation → Prop
  | insertApp row => row.droplet = none
  | updateApp _ | insertRevision _ | insertDeployment _ | updateDeployment _ | deleteDeployment _
  | insertHistory _ => False
  | _ => True

namespace Tables

/-- What supplies leave as it is, and where they add rows. -/
structure Supplied (t u : Tables) : Prop where
  deployments : u.deployments = t.deployments
  revisions : u.revisions = t.revisions
  history : u.historicalProcesses = t.historicalProcesses
  droplets : t.droplets <+: u.droplets
  processes : t.processes <+: u.processes
  apps : u.apps = t.apps ∨
    ∃ a, a.droplet = none ∧ a.guid ∉ t.apps.map (·.guid) ∧ u.apps = t.apps ++ [a]

lemma Supplied.of_effect {op : Operation} {t u : Tables} (hop : op.Supplies)
    (h : op.effect t = .ok u) : t.Supplied u := by
  cases op with
  | updateApp row | insertRevision row | insertDeployment row | updateDeployment row
  | deleteDeployment row | insertHistory row => exact hop.elim
  | insertApp row =>
    obtain ⟨hn, rfl⟩ := insertApp_ok.mp h
    exact ⟨rfl, rfl, rfl, List.prefix_refl _, List.prefix_refl _, .inr ⟨row, hop, hn, rfl⟩⟩
  | insertDroplet row =>
    obtain ⟨-, rfl⟩ := insertDroplet_ok.mp h
    exact ⟨rfl, rfl, rfl, List.prefix_append _ _, List.prefix_refl _, .inl rfl⟩
  | insertProcess row =>
    obtain ⟨-, rfl⟩ := insertProcess_ok.mp h
    exact ⟨rfl, rfl, rfl, List.prefix_refl _, List.prefix_append _ _, .inl rfl⟩
  | insertMapping row =>
    obtain ⟨-, -, rfl⟩ := insertMapping_ok.mp h
    exact ⟨rfl, rfl, rfl, List.prefix_refl _, List.prefix_refl _, .inl rfl⟩
  | _ =>
    cases h
    exact ⟨rfl, rfl, rfl, List.prefix_refl _, List.prefix_refl _, .inl rfl⟩

def Owns (t : Tables) (app : AppGuid) (guid : DropletGuid) : Prop :=
  ∃ c, t.droplet? guid = some c ∧ c.app = app

variable {t t' : Tables} {app : AppGuid}

lemma droplet?_mono (h : t.droplets <+: t'.droplets) {guid : DropletGuid} {c : Droplet}
    (hc : t.droplet? guid = some c) : t'.droplet? guid = some c := by
  obtain ⟨more, he⟩ := h
  rw [droplet?] at hc
  rw [droplet?, ← he, List.find?_append, hc, Option.some_or]

lemma process?_mono (h : t.processes <+: t'.processes) {guid : ProcessGuid} {p : AppProcess}
    (hp : t.process? guid = some p) : t'.process? guid = some p := by
  obtain ⟨more, he⟩ := h
  rw [process?] at hp
  rw [process?, ← he, List.find?_append, hp, Option.some_or]

lemma Owns.mono (h : t.droplets <+: t'.droplets) {guid : DropletGuid}
    (ho : t.Owns app guid) : t'.Owns app guid := by
  obtain ⟨c, hc, ha⟩ := ho
  exact ⟨c, droplet?_mono h hc, ha⟩

end Tables

namespace Deployment

/-- What a deployment names is stored, once, and names the deployment where it can. -/
structure Linked (d : Deployment) (t : Tables) : Prop where
  droplet : ∃ guid, d.droplet = some guid ∧ t.Owns d.app guid
  previous : ∀ guid, d.previousDroplet = some guid → t.Owns d.app guid
  process : ∃ p, d.deployingWebProcess = some p.guid ∧ t.process? p.guid = some p ∧
    p.app = d.app ∧ p.type = .deployingWeb ∧ p.deployment = some d.guid ∧
    p.revision = d.revision.map (·.guid)
  revision : ∃ r, d.revision = some ⟨r.guid, r.version⟩ ∧
    t.revisions.filter (·.guid = r.guid) = [r] ∧ r.app = d.app ∧ d.droplet = some r.droplet
  history : ∃ h, t.historyOf d.guid = [h] ∧ d.deployingWebProcess = some h.processGuid ∧
    h.processType = "web-deployment-" ++ d.guid.text

variable {t t' : Tables} {d : Deployment}

lemma Linked.superseded (h : d.Linked t) (time : Instant) (app : AppGuid) :
    (d.superseded time app).Linked t := by
  unfold Deployment.superseded
  split
  · exact { h with }
  · exact h

/-- Links last while rows are added that are about other deployments. -/
lemma Linked.extend (h : d.Linked t) (hdroplets : t.droplets <+: t'.droplets)
    (hprocesses : t.processes <+: t'.processes)
    (hrevisions : ∀ r ∈ t.revisions, t'.revisions.filter (·.guid = r.guid) =
      t.revisions.filter (·.guid = r.guid))
    (hhistory : t'.historyOf d.guid = t.historyOf d.guid) : d.Linked t' where
  droplet := by
    obtain ⟨guid, hg, ho⟩ := h.droplet
    exact ⟨guid, hg, ho.mono hdroplets⟩
  previous := fun guid hg => (h.previous guid hg).mono hdroplets
  process := by
    obtain ⟨p, hp, hs, hrest⟩ := h.process
    exact ⟨p, hp, Tables.process?_mono hprocesses hs, hrest⟩
  revision := by
    obtain ⟨r, hr, hs, hrest⟩ := h.revision
    have hmem : r ∈ t.revisions := List.mem_of_mem_filter (hs ▸ List.mem_singleton_self r)
    exact ⟨r, hr, (hrevisions r hmem).trans hs, hrest⟩
  history := hhistory ▸ h.history

end Deployment

namespace Tables

/-- All deployments are linked, each to a process and a revision of its own. -/
structure Linked (t : Tables) : Prop where
  intact : t.Intact
  deployments : ∀ d ∈ t.deployments, d.Linked t
  processes : (t.deployments.map (·.deployingWebProcess)).Nodup
  revisions : (t.deployments.map fun d => d.revision.map (·.guid)).Nodup
  assigned : ∀ a ∈ t.apps, ∀ guid, a.droplet = some guid → t.Owns a.guid guid

variable {t t' : Tables}

lemma linked_empty : empty.Linked := by
  refine ⟨intact_empty, ?_, ?_, ?_, ?_⟩ <;> simp [empty]

lemma Linked.supplied (h : t.Linked) (hi : t'.Intact) (hs : t.Supplied t') : t'.Linked where
  intact := hi
  deployments := by
    intro d hd
    rw [hs.deployments] at hd
    refine (h.deployments d hd).extend hs.droplets hs.processes ?_ ?_
    · intro r _
      rw [hs.revisions]
    · rw [historyOf, hs.history, historyOf]
  processes := hs.deployments ▸ h.processes
  revisions := hs.deployments ▸ h.revisions
  assigned := by
    intro a ha guid hg
    have hstored : a ∈ t.apps := by
      rcases hs.apps with he | ⟨b, hn, -, he⟩
      · exact he ▸ ha
      · rw [he] at ha
        refine (List.mem_append.mp ha).resolve_right fun hb => ?_
        rw [List.mem_singleton.mp hb, hn] at hg
        cases hg
    exact (h.assigned a hstored guid hg).mono hs.droplets

lemma lasting_linked : Lasting Operation.Supplies Linked := by
  intro op t u hop h he
  have hi : u.Intact := (lasting_intact (P := fun _ => True)) op t u trivial h.intact he
  exact h.supplied hi (.of_effect hop he)

lemma Linked.without (h : t.Linked) (guids : List DeploymentGuid) : (t.without guids).Linked where
  intact := h.intact.without guids
  deployments := by
    intro d hd
    obtain ⟨hd, hnot⟩ := List.mem_filter.mp hd
    exact (h.deployments d hd).extend (List.prefix_refl _) (List.prefix_refl _)
      (fun _ _ => rfl) (historyOf_without (of_decide_eq_true hnot))
  processes := nodup_filter_key h.processes
  revisions := nodup_filter_key h.revisions
  assigned := h.assigned

end Tables

section Creation

variable {t : Tables} {l : Launch} {draws : CreateDraws} {app : AppGuid}
variable {droplet : Option DropletGuid} {r : Revision}

lemma Tables.owns_of_launch? (hl : t.launch? app droplet = .ok l) :
    t.Owns l.app.guid l.droplet.guid := by
  obtain ⟨g, -, hd, ha⟩ := Tables.assignable?_eq_some.mp (Tables.launch?_ok.mp hl).2.1
  obtain ⟨-, rfl⟩ := of_find_key hd
  exact ⟨l.droplet, hd, ha⟩

lemma Deployment.Linked.rolledOut {d : Deployment} (h : d.Linked t)
    (hr : r.guid ∉ t.revisions.map (·.guid)) (hd : d.guid ≠ draws.deploymentGuid) :
    d.Linked (l.rolledOut draws r t) := by
  refine h.extend (List.prefix_refl _) (List.prefix_append _ _) ?_ ?_
  · intro s hs
    have hne : r.guid ≠ s.guid := fun he => hr (he ▸ List.mem_map_of_mem hs)
    simp [Launch.rolledOut, List.filter_append, hne]
  · have hne : draws.deploymentGuid ≠ d.guid := hd.symm
    simp [Tables.historyOf, Launch.rolledOut, List.filter_append, Launch.record,
      Launch.successor, Launch.deployment, hne]

lemma Tables.Linked.successor (h : t.Linked) (hl : t.launch? app droplet = .ok l)
    (hi : (l.rolledOut draws r t).Intact) (hr : r.guid ∉ t.revisions.map (·.guid))
    (hd : draws.deploymentGuid ∉ t.deployments.map (·.guid)) (happ : r.app = l.app.guid)
    (hdroplet : r.droplet = l.droplet.guid) :
    (l.successor draws r t).Linked (l.rolledOut draws r t) where
  droplet := by
    have ho : t.Owns l.app.guid l.droplet.guid := owns_of_launch? hl
    exact ⟨l.droplet.guid, rfl, ho⟩
  previous := fun g hg => h.assigned l.app (Tables.app_of_launch? hl).1 g hg
  process := by
    let p := l.shadow draws (l.successor draws r t)
    have hp : p ∈ (l.rolledOut draws r t).processes :=
      List.mem_append_right _ (List.mem_singleton_self p)
    have hweb : l.web.app = l.app.guid :=
      (Tables.web_of_launch? hl).2.1.trans (Tables.app_of_launch? hl).2.symm
    exact ⟨p, rfl, find_key_of_mem hi.processes hp rfl, hweb, rfl, rfl, rfl⟩
  revision := by
    refine ⟨r, rfl, ?_, happ, congrArg some hdroplet.symm⟩
    have hnone : t.revisions.filter (·.guid = r.guid) = [] := filter_key_eq_nil hr
    simp [Launch.rolledOut, List.filter_append, hnone]
  history := by
    refine ⟨l.record draws (l.successor draws r t), ?_, rfl, rfl⟩
    have hnone : t.historicalProcesses.filter (·.deployment = draws.deploymentGuid) = [] := by
      refine filter_key_eq_nil fun hm => ?_
      obtain ⟨s, hs, he⟩ := List.mem_map.mp hm
      exact hd (he ▸ h.intact.history s hs)
    have hguid : (l.successor draws r t).guid = draws.deploymentGuid := rfl
    simp [Tables.historyOf, Launch.rolledOut, List.filter_append, Launch.record, hguid, hnone]

lemma Tables.Linked.rolledOut (h : t.Linked) (hl : t.launch? app droplet = .ok l)
    (hi : (l.rolledOut draws r t).Intact) (hr : r.guid ∉ t.revisions.map (·.guid))
    (hp : draws.processGuid ∉ t.processes.map (·.guid))
    (hd : draws.deploymentGuid ∉ t.deployments.map (·.guid)) (happ : r.app = l.app.guid)
    (hdroplet : r.droplet = l.droplet.guid) : (l.rolledOut draws r t).Linked where
  intact := hi
  deployments := by
    intro d hm
    rcases List.mem_append.mp hm with hm | hm
    · obtain ⟨x, hx, rfl⟩ := List.mem_map.mp hm
      refine ((h.deployments x hx).superseded _ _).rolledOut hr ?_
      rw [Deployment.superseded_guid]
      exact fun he => hd (he ▸ List.mem_map_of_mem hx)
    · rw [List.mem_singleton.mp hm]
      exact h.successor hl hi hr hd happ hdroplet
  processes := by
    refine Deployment.nodup_superseded (fun _ => rfl) h.processes ?_
    -- An older deployment names a stored process, and the new process was not stored.
    intro hm
    obtain ⟨x, hx, he⟩ := List.mem_map.mp hm
    obtain ⟨p, hxp, hs, -⟩ := (h.deployments x hx).process
    have hg : p.guid = draws.processGuid := Option.some.inj (hxp.symm.trans he)
    exact hp (hg ▸ List.mem_map_of_mem (of_find_key hs).1)
  revisions := by
    refine Deployment.nodup_superseded (fun _ => rfl) h.revisions ?_
    intro hm
    obtain ⟨x, hx, he⟩ := List.mem_map.mp hm
    obtain ⟨s, hxs, hs, -⟩ := (h.deployments x hx).revision
    have hmem : s ∈ t.revisions := List.mem_of_mem_filter (hs ▸ List.mem_singleton_self s)
    rw [hxs] at he
    have hg : s.guid = r.guid := Option.some.inj he
    exact hr (hg ▸ List.mem_map_of_mem hmem)
  assigned := by
    intro a ha g hg
    rcases mem_replaceFirst ha with rfl | ha
    · have ho : t.Owns l.app.guid l.droplet.guid := owns_of_launch? hl
      cases hg
      exact ho
    · exact h.assigned a ha g hg

end Creation

namespace Deployment

def sequence (ds : List Deployment) (app : AppGuid) : List Deployment := ds.filter (·.app = app)

variable {ds es : List Deployment} {app : AppGuid}

lemma sequence_append : sequence (ds ++ es) app = sequence ds app ++ sequence es app :=
  List.filter_append ds es

lemma sequence_concat_own {d : Deployment} (h : d.app = app) :
    sequence (ds ++ [d]) app = sequence ds app ++ [d] := by
  simp [sequence, h]

lemma sequence_concat_other {d : Deployment} (h : d.app ≠ app) :
    sequence (ds ++ [d]) app = sequence ds app := by
  simp [sequence, h]

lemma mem_sequence {d : Deployment} : d ∈ sequence ds app ↔ d ∈ ds ∧ d.app = app := by
  simp [sequence]

lemma sequence_eq_nil : sequence ds app = [] ↔ ∀ d ∈ ds, d.app ≠ app := by
  simp [sequence]

end Deployment

namespace Tables

/-- Each rollout took over from the one before it, and the app has what the last one brought. -/
structure Handed (ds : List Deployment) (t : Tables) : Prop where
  apps : (t.apps.map (·.guid)).Nodup
  known : ∀ d ∈ ds, d.app ∈ t.apps.map (·.guid)
  current : ∀ a ∈ t.apps, (none :: (Deployment.sequence ds a.guid).map (·.droplet)).getLast? =
    some a.droplet
  previous : ∀ app, (Deployment.sequence ds app).map (·.previousDroplet) =
    (none :: (Deployment.sequence ds app).map (·.droplet)).dropLast

variable {t t' : Tables} {ds : List Deployment}

lemma handed_empty : empty.Handed [] := by
  refine ⟨?_, ?_, ?_, ?_⟩ <;> simp [empty, Deployment.sequence]

lemma Handed.congr (h : t.Handed ds) (he : t'.apps = t.apps) : t'.Handed ds where
  apps := he ▸ h.apps
  known := he ▸ h.known
  current := he ▸ h.current
  previous := h.previous

lemma Handed.supplied (h : t.Handed ds) (hs : t.Supplied t') : t'.Handed ds := by
  rcases hs.apps with he | ⟨a, hnone, hnew, he⟩
  · exact h.congr he
  · refine ⟨he ▸ nodup_append_key h.apps hnew, ?_, ?_, h.previous⟩
    · intro d hd
      rw [he, List.map_append]
      exact List.mem_append_left _ (h.known d hd)
    · intro b hb
      rw [he] at hb
      rcases List.mem_append.mp hb with hb | hb
      · exact h.current b hb
      · obtain rfl := List.mem_singleton.mp hb
        have hempty : Deployment.sequence ds b.guid = [] := by
          refine filter_key_eq_nil fun hm => ?_
          obtain ⟨d, hd, hg⟩ := List.mem_map.mp hm
          exact hnew (hg ▸ h.known d hd)
        rw [hempty, hnone]
        rfl

lemma Handed.first (h : t.Handed ds) {app : AppGuid} {d : Deployment}
    (hd : (Deployment.sequence ds app)[0]? = some d) : d.previousDroplet = none := by
  obtain ⟨hlt, rfl⟩ := List.getElem?_eq_some_iff.mp hd
  have hp := congrArg (·[0]?) (h.previous app)
  simpa [List.getElem?_dropLast, hlt] using hp

lemma Handed.next (h : t.Handed ds) {app : AppGuid} {k : Nat} {c d : Deployment}
    (hc : (Deployment.sequence ds app)[k]? = some c)
    (hd : (Deployment.sequence ds app)[k + 1]? = some d) : d.previousDroplet = c.droplet := by
  obtain ⟨hk, rfl⟩ := List.getElem?_eq_some_iff.mp hc
  obtain ⟨hlt, rfl⟩ := List.getElem?_eq_some_iff.mp hd
  have hp := congrArg (·[k + 1]?) (h.previous app)
  simpa [List.getElem?_dropLast, hk, hlt] using hp

lemma Handed.rolledOut (h : t.Handed ds) {l : Launch} {draws : CreateDraws} {r : Revision}
    (ha : l.app ∈ t.apps) :
    (l.rolledOut draws r t).Handed (ds ++ [l.successor draws r t]) := by
  have hsame : Deployment.sequence (ds ++ [l.successor draws r t]) l.app.guid =
      Deployment.sequence ds l.app.guid ++ [l.successor draws r t] := by
    simp [Deployment.sequence, List.filter_append, Launch.successor, Launch.deployment]
  have hother : ∀ app, app ≠ l.app.guid →
      Deployment.sequence (ds ++ [l.successor draws r t]) app = Deployment.sequence ds app := by
    intro app hne
    simp [Deployment.sequence, List.filter_append, Launch.successor, Launch.deployment, hne.symm]
  have hkeys : (l.rolledOut draws r t).apps.map (·.guid) = t.apps.map (·.guid) :=
    map_replaceFirst fun a _ hg => of_decide_eq_true hg
  refine ⟨hkeys ▸ h.apps, ?_, ?_, ?_⟩
  · intro d hd
    rw [hkeys]
    rcases List.mem_append.mp hd with hd | hd
    · exact h.known d hd
    · rw [List.mem_singleton.mp hd]
      exact List.mem_map_of_mem ha
  · intro a hm
    rw [Launch.rolledOut, replaceFirst_eq_map h.apps] at hm
    obtain ⟨b, hb, rfl⟩ := List.mem_map.mp hm
    by_cases hg : b.guid = l.app.guid
    · rw [if_pos hg]
      have hguid : l.assigned.guid = l.app.guid := rfl
      rw [hguid, hsame, List.map_append, ← List.cons_append]
      exact List.getLast?_concat
    · rw [if_neg hg, hother _ hg]
      exact h.current b hb
  · intro app
    by_cases hg : app = l.app.guid
    · rw [hg, hsame, List.map_append, List.map_append, ← List.cons_append, List.map_singleton,
        List.map_singleton, List.dropLast_concat, h.previous]
      exact List.dropLast_append_getLast? _ (h.current l.app ha)
    · rw [hother app hg]
      exact h.previous app

end Tables

lemma Call.linkage_invariant :
    Invariant Operation.Supplies RevisionCreator.Sequential
      (fun ds t => t.Linked ∧ t.Handed ds) where
  create := by
    intro draws revisions app droplet user ds d e t t' hs h hc
    have hi : t'.Intact := Deployment.createIn_intact h.1.intact hs hc
    obtain ⟨guid, time, hseq⟩ := Deployment.createIn_sequential hs hc
    obtain ⟨l, hl, hd, hp, hr, rfl, rfl⟩ :=
      Deployment.createIn_rolledOut h.1.intact.deployments hseq
    exact ⟨h.1.rolledOut hl hi hr hp hd rfl rfl, h.2.rolledOut (Tables.app_of_launch? hl).1⟩
  prune := fun h => ⟨h.1.without _, h.2.congr rfl⟩
  transact := fun op t u hop h he =>
    ⟨Tables.lasting_linked op t u hop h.1 he, h.2.supplied (.of_effect hop he)⟩

/--
While others only supply apps, droplets, processes and routes, the rows of rollouts stay linked,
and each rollout of an app takes over from the one before it.
-/
theorem rollouts_linked {σ : Type} (sink : AuditSink σ) (log : σ) (calls : List Call)
    (hcalls : ∀ c ∈ calls, c.Within Operation.Supplies RevisionCreator.Sequential) :
    let t := (Call.runAll sink ⟨.empty, log⟩ calls).2.store.tables
    (∀ d ∈ t.deployments, d.Linked t) ∧
      (t.deployments.map (·.deployingWebProcess)).Nodup ∧
      (t.deployments.map fun d => d.revision.map (·.guid)).Nodup ∧
      (∀ h ∈ t.historicalProcesses, ∃ d, t.deployment? h.deployment = some d) ∧
      ∀ app, let ds := Deployment.sequence (created (Call.runAll sink ⟨.empty, log⟩ calls).1) app
        (∀ d, ds[0]? = some d → d.previousDroplet = none) ∧
          ∀ k c d, ds[k]? = some c → ds[k + 1]? = some d → d.previousDroplet = c.droplet := by
  intro t
  have hrun : t.Linked ∧ t.Handed (created (Call.runAll sink ⟨.empty, log⟩ calls).1) :=
    Call.linkage_invariant.from_empty hcalls ⟨Tables.linked_empty, Tables.handed_empty⟩
  obtain ⟨hl, hh⟩ := hrun
  refine ⟨hl.deployments, hl.processes, hl.revisions, ?_, fun app =>
    ⟨fun _ => hh.first, fun _ _ _ => hh.next⟩⟩
  intro h hm
  obtain ⟨d, hd, hg⟩ := List.mem_map.mp (hl.intact.history h hm)
  exact ⟨d, find_key_of_mem hl.intact.deployments hd hg⟩

theorem rollouts_linked_of_shop :
    (∀ c ∈ Sample.interrupted, c.Within Operation.Supplies RevisionCreator.Sequential) ∧
    Sample.aftermath.2.store.tables.deployments.length = 1 ∧
    (∀ d ∈ Sample.aftermath.2.store.tables.deployments, d.Linked Sample.aftermath.2.store.tables) ∧
    ∃ c d, Deployment.sequence (created Sample.aftermath.1) ⟨"shop"⟩ = [c, d] ∧
      c.previousDroplet = none ∧ d.previousDroplet = c.droplet := by
  have hopening : (Script.each (Sample.opening "shop")).Calls Operation.Supplies :=
    Script.each_calls (by simp [Sample.opening, Operation.Supplies])
  have hcalls : ∀ c ∈ Sample.interrupted,
      c.Within Operation.Supplies RevisionCreator.Sequential := by
    simp [Sample.interrupted, Sample.rollout, Call.Within, Revision.sequential_sequential, hopening]
  have hrun := rollouts_linked .memory [] Sample.interrupted hcalls
  have haftermath : Call.runAll .memory ⟨.empty, []⟩ Sample.interrupted = Sample.aftermath := rfl
  rw [haftermath] at hrun
  have htwo : (Deployment.sequence (created Sample.aftermath.1) ⟨"shop"⟩).length = 2 := by
    decide +kernel
  obtain ⟨c, d, hcd⟩ := List.length_eq_two.mp htwo
  obtain ⟨hfirst, hnext⟩ := hrun.2.2.2.2 ⟨"shop"⟩
  rw [hcd] at hfirst hnext
  exact ⟨hcalls, by decide +kernel, hrun.1, c, d, hcd, hfirst c rfl, hnext 0 c d rfl rfl⟩

end Rollout
