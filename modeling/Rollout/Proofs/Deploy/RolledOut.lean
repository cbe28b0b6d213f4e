import Rollout.Proofs.Deploy.Creation
import Rollout.Proofs.Deploy.Revisions

/-! Rollouts with the next revision of the app, from the tables before them to those after. -/

namespace Rollout

namespace Launch

variable (l : Launch) (draws : CreateDraws) (r : Revision) (t : Tables)

def successor : Deployment := l.deployment draws (t.instancesFor l) r

def rolledOut : Tables where
  apps := replaceFirst (·.guid = l.app.guid) l.assigned t.apps
  droplets := t.droplets
  revisions := t.revisions ++ [r]
  processes := t.processes ++ [l.shadow draws (l.successor draws r t)]
  routeMappings := t.routeMappings ++
    RouteMapping.planted draws.mappings draws.processGuid 0 (t.missing l.web.guid draws.processGuid)
  deployments := t.deployments.map (Deployment.superseded draws.time l.app.guid) ++
    [l.successor draws r t]
  historicalProcesses := t.historicalProcesses ++ [l.record draws (l.successor draws r t)]

variable {l draws r t}

lemma written_eq_rolledOut (h : (t.deployments.map (·.guid)).Nodup) :
    l.written draws (t.inFlight l.app.guid) (l.successor draws r t)
      { t.withApp l.assigned with revisions := t.revisions ++ [r] } = l.rolledOut draws r t := by
  have hrows : Deployment.endAll draws.time (t.inFlight l.app.guid) t.deployments =
      t.deployments.map (Deployment.superseded draws.time l.app.guid) :=
    Deployment.endAll_inFlight h
  simp only [written, rolledOut, ← hrows]
  rfl

end Launch

/-- A revision that is made is the next one of its app. -/
def RevisionCreator.Sequential (revisions : RevisionCreator) : Prop :=
  ∀ {app droplet t r t'}, revisions app droplet t = (.ok r, t') →
    ∃ guid time, Revision.sequential guid time app droplet t = (.ok r, t')

lemma Revision.sequential_sequential (guid : RevisionGuid) (time : Instant) :
    (sequential guid time).Sequential := fun h => ⟨guid, time, h⟩

namespace Deployment

variable {t t' : Tables} {draws : CreateDraws} {user : UserAuditInfo} {l : Launch}
variable {d : Deployment} {e : AuditEvent} {revisions : RevisionCreator} {app : AppGuid}
variable {droplet : Option DropletGuid} {guid : RevisionGuid} {time : Instant}

lemma createIn_sequential (hs : revisions.Sequential) {x : Deployment × AuditEvent}
    (h : createIn draws revisions app droplet user t = (.ok x, t')) :
    ∃ guid time,
      createIn draws (Revision.sequential guid time) app droplet user t = (.ok x, t') := by
  obtain ⟨l, r, u, hl, hr, -⟩ := createIn_ok h
  obtain ⟨guid, time, hr'⟩ := hs hr
  refine ⟨guid, time, ?_⟩
  rw [createIn_launched hl] at h ⊢
  have hw := (Tx.bind_of_ok hr).symm.trans h
  exact (Tx.bind_of_ok hr').trans hw

lemma createIn_intact (ht : t.Intact) (hs : revisions.Sequential) {x : Deployment × AuditEvent}
    (h : createIn draws revisions app droplet user t = (.ok x, t')) : t'.Intact := by
  obtain ⟨guid, time, hseq⟩ := createIn_sequential hs h
  have hk : (createIn draws (Revision.sequential guid time) app droplet user).Keeps Tables.Intact :=
    createIn_keeps Tables.lasting_intact fun _ _ => Revision.sequential_keeps Tables.lasting_intact
  have hkeep := hk t ht
  rwa [hseq] at hkeep

lemma createIn_rolledOut (hk : (t.deployments.map (·.guid)).Nodup)
    (h : createIn draws (Revision.sequential guid time) app droplet user t = (.ok (d, e), t')) :
    ∃ l, t.launch? app droplet = .ok l ∧ draws.deploymentGuid ∉ t.deployments.map (·.guid) ∧
      draws.processGuid ∉ t.processes.map (·.guid) ∧ guid ∉ t.revisions.map (·.guid) ∧
      d = l.successor draws (Revision.next guid time t l.app l.droplet) t ∧
      t' = l.rolledOut draws (Revision.next guid time t l.app l.droplet) t := by
  obtain ⟨l, r, u, hl, hr, hd, -, hp, hdep, ht⟩ := createIn_ok h
  obtain ⟨hg, rfl, rfl⟩ := Revision.sequential_ok.mp hr
  dsimp only at hd ht hdep
  subst hd
  exact ⟨l, hl, hdep, hp, hg, rfl, ht.trans (Launch.written_eq_rolledOut hk)⟩

lemma createIn_total (ht : t.Intact) (hnew : draws.New t) (hg : guid ∉ t.revisions.map (·.guid))
    (hl : t.launch? app droplet = .ok l) :
    createIn draws (Revision.sequential guid time) app droplet user t =
      (let r := Revision.next guid time t l.app l.droplet
       let d := l.successor draws r t
       (.ok (d, l.event draws user d), l.rolledOut draws r t)) := by
  let r := Revision.next guid time t l.app l.droplet
  let u : Tables := { t.withApp l.assigned with revisions := t.revisions ++ [r] }
  have hr : Revision.sequential guid time l.assigned l.droplet (t.withApp l.assigned) =
      (.ok r, u) := Revision.sequential_ok.mpr ⟨hg, rfl, rfl⟩
  have happs : (t.withApp l.assigned).apps.map (·.guid) = t.apps.map (·.guid) :=
    map_replaceFirst fun a _ ha => of_decide_eq_true ha
  have hu : u.Intact := { ht with
    apps := happs ▸ ht.apps
    revisions := nodup_append_key ht.revisions hg }
  have hending : ∀ x ∈ t.inFlight l.app.guid, x.guid ∈ u.deployments.map (·.guid) :=
    fun x hx => List.mem_map_of_mem (Tables.mem_inFlight.mp hx).1
  have hw : writing draws user l (t.inFlight l.app.guid) (l.successor draws r t) u = _ :=
    writing_total hu { hnew with } rfl hending
  rw [createIn_launched hl]
  refine (Tx.bind_of_ok hr).trans ?_
  exact hw.trans (congrArg _ (Launch.written_eq_rolledOut ht.deployments))

end Deployment

end Rollout
