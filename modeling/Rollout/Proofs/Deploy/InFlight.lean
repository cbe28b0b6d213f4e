import Rollout.Proofs.Deploy.Revisions
import Rollout.Proofs.Run

/-! An app has one rollout in flight at most, and sweeps leave it alone. -/

namespace Rollout

namespace Operation

def SparesDeployments : Operation → Prop
  | insertDeployment _ | updateDeployment _ | deleteDeployment _ => False
  | _ => True

lemma SparesDeployments.effect {op : Operation} (hop : op.SparesDeployments) {t t' : Tables}
    (h : op.effect t = .ok t') : t'.deployments = t.deployments := by
  cases op with
  | insertDeployment row | updateDeployment row | deleteDeployment row => exact hop.elim
  | insertApp row =>
    obtain ⟨-, rfl⟩ := Tables.insertApp_ok.mp h
    rfl
  | updateApp row =>
    obtain ⟨-, rfl⟩ := Tables.updateApp_ok.mp h
    rfl
  | insertDroplet row =>
    obtain ⟨-, rfl⟩ := Tables.insertDroplet_ok.mp h
    rfl
  | insertRevision row =>
    obtain ⟨-, rfl⟩ := Tables.insertRevision_ok.mp h
    rfl
  | insertProcess row =>
    obtain ⟨-, rfl⟩ := Tables.insertProcess_ok.mp h
    rfl
  | insertMapping row =>
    obtain ⟨-, -, rfl⟩ := Tables.insertMapping_ok.mp h
    rfl
  | insertHistory row =>
    obtain ⟨-, rfl⟩ := Tables.insertHistory_ok.mp h
    rfl
  | _ =>
    cases h
    rfl

end Operation

def RevisionCreator.SparesDeployments (revisions : RevisionCreator) : Prop :=
  ∀ {app droplet t r t'}, revisions app droplet t = (.ok r, t') → t'.deployments = t.deployments

lemma Revision.sequential_spares (guid : RevisionGuid) (time : Instant) :
    (sequential guid time).SparesDeployments := by
  intro app droplet t r t' h
  obtain ⟨-, -, rfl⟩ := sequential_ok.mp h
  rfl

namespace Tables

variable {t t' : Tables} {app : AppGuid} {limit : Nat}

def deploying (t : Tables) (app : AppGuid) : List Deployment :=
  t.deployments.filter fun d => d.app = app ∧ d.isDeploying

lemma mem_deploying {d : Deployment} :
    d ∈ t.deploying app ↔ d ∈ t.deployments ∧ d.app = app ∧ d.isDeploying = true := by
  simp [deploying]

lemma deploying_congr (h : t'.deployments = t.deployments) :
    t'.deploying app = t.deploying app := by
  rw [deploying, h, deploying]

lemma deploying_without (h : (t.deployments.map (·.guid)).Nodup) {a : AppGuid} :
    (t.without ((t.doomed a limit).map (·.guid))).deploying app = t.deploying app := by
  unfold deploying without
  rw [List.filter_filter]
  apply List.filter_congr
  intro d hd
  by_cases hin : d.app = app ∧ d.isDeploying = true
  · have hnot : d.guid ∉ (t.doomed a limit).map (·.guid) := by
      intro hm
      have hp := (mem_doomed ((mem_doomed_guids h hd).mp hm)).2.2
      have hs : d.state = .deploying := by simpa [Deployment.isDeploying] using hin.2
      rw [hs] at hp
      cases hp
    simp only [hin, hnot, not_false_iff, and_self, decide_true, Bool.and_self]
  · simp only [hin, decide_false, Bool.false_and]

end Tables

namespace Deployment

variable {t t' : Tables} {app a : AppGuid} {time : Instant} {draws : CreateDraws}
variable {revisions : RevisionCreator} {droplet : Option DropletGuid} {user : UserAuditInfo}

lemma createIn_deployments (hk : (t.deployments.map (·.guid)).Nodup)
    (hs : revisions.SparesDeployments) {r : Deployment × AuditEvent}
    (h : createIn draws revisions app droplet user t = (.ok r, t')) :
    t'.deployments = t.deployments.map (superseded draws.time app) ++ [r.1] ∧
      r.1.guid ∉ t.deployments.map (·.guid) ∧ r.1.app = app ∧ r.1.isDeploying = true := by
  obtain ⟨l, n, u, hl, hn, hd, -, -, hnew, ht⟩ := createIn_ok h
  have happ : l.app.guid = app := (Tables.app_of_launch? hl).2
  have hu : u.deployments = t.deployments := (hs hn).trans rfl
  rw [hu] at hnew
  refine ⟨?_, hnew, ?_, ?_⟩
  · rw [ht, Launch.written, hu, endAll_inFlight hk, happ]
  · rw [hd]
    exact happ
  · rw [hd]
    rfl

lemma createIn_guids (hk : (t.deployments.map (·.guid)).Nodup) (hs : revisions.SparesDeployments)
    {r : Deployment × AuditEvent}
    (h : createIn draws revisions app droplet user t = (.ok r, t')) :
    (t'.deployments.map (·.guid)).Nodup := by
  obtain ⟨hrows, hnew, -, -⟩ := createIn_deployments hk hs h
  rw [hrows]
  exact nodup_superseded (fun _ => rfl) hk hnew

lemma createIn_deploying (hk : (t.deployments.map (·.guid)).Nodup)
    (hs : revisions.SparesDeployments) {r : Deployment × AuditEvent}
    (h : createIn draws revisions app droplet user t = (.ok r, t')) :
    t'.deploying a = if a = app then [r.1] else t.deploying a := by
  obtain ⟨hrows, -, happ, hin⟩ := createIn_deployments hk hs h
  rw [Tables.deploying, hrows, List.filter_append, superseded_deploying]
  by_cases ha : a = app
  · simp [ha, happ, hin]
  · have hne : r.1.app ≠ a := fun he => ha (he.symm.trans happ)
    simp [ha, hne, Tables.deploying]

end Deployment

namespace Tables

structure Exclusive (t : Tables) : Prop where
  guids : (t.deployments.map (·.guid)).Nodup
  single : ∀ app, (t.deploying app).length ≤ 1

lemma Exclusive.congr {t t' : Tables} (h : t.Exclusive) (he : t'.deployments = t.deployments) :
    t'.Exclusive where
  guids := he ▸ h.guids
  single := fun app => deploying_congr he ▸ h.single app

lemma exclusive_empty : empty.Exclusive := by
  constructor <;> simp [empty, deploying]

end Tables

namespace Deployment

variable {store : Store} {app a : AppGuid} {limit : Nat}

def Rolling (app : AppGuid) (rows : List Deployment) (t : Tables) : Prop :=
  (t.deployments.map (·.guid)).Nodup ∧ t.deploying app = rows

lemma Rolling.without {rows : List Deployment} {t : Tables} (h : Rolling app rows t) :
    Rolling app rows (t.without ((t.doomed a limit).map (·.guid))) :=
  ⟨nodup_filter_key h.1, (Tables.deploying_without h.1).trans h.2⟩

/-- No sweep changes which rollouts of the app are in flight. -/
def SweptAround (store : Store) (app : AppGuid) : Prop :=
  (∀ a limit, (prune store a limit).2.tables.deploying app = store.tables.deploying app) ∧
    ∀ limit, (pruneAll store limit).2.tables.deploying app = store.tables.deploying app

lemma sweptAround (hk : (store.tables.deployments.map (·.guid)).Nodup) : SweptAround store app := by
  have h : Rolling app (store.tables.deploying app) store.tables := ⟨hk, rfl⟩
  constructor
  · intro a limit
    have hp : Rolling app (store.tables.deploying app) (prune store a limit).2.tables :=
      prune_keeps (fun _ ht => ht.without) h
    exact hp.2
  · intro limit
    have hp : Rolling app (store.tables.deploying app) (pruneAll store limit).2.tables :=
      pruneAll_keeps (fun _ _ ht => ht.without) h
    exact hp.2

end Deployment

namespace Call

lemma exclusive_invariant :
    Invariant Operation.SparesDeployments RevisionCreator.SparesDeployments
      (fun _ => Tables.Exclusive) where
  create := by
    intro draws revisions app droplet user ds d e t t' hs h ht
    refine ⟨Deployment.createIn_guids h.guids hs ht, fun a => ?_⟩
    rw [Deployment.createIn_deploying h.guids hs ht]
    split
    · exact Nat.le_refl 1
    · exact h.single a
  prune := by
    intro limit app ds t h
    exact ⟨nodup_filter_key h.guids, fun a => Tables.deploying_without h.guids ▸ h.single a⟩
  transact := fun op t u hop h he => h.congr (hop.effect he)

end Call

section Main

variable {σ : Type}

/--
An app has one rollout in flight at most, as long as nothing but creations and sweeps writes
deployments, and sweeps leave it alone. Even where others have left several, a creation ends them
all and no other row.
-/
theorem rollouts_exclusive :
    (∀ (sink : AuditSink σ) (log : σ) (calls : List Call),
      (∀ c ∈ calls, c.Within Operation.SparesDeployments RevisionCreator.SparesDeployments) →
      let store := (Call.runAll sink ⟨.empty, log⟩ calls).2.store
      ∀ app, (store.tables.deploying app).length ≤ 1 ∧ Deployment.SweptAround store app) ∧
    (∀ store : Store, store.tables.Built → ∀ app, Deployment.SweptAround store app) ∧
    ∀ (sink : AuditSink σ) (log log' : σ) (store store' : Store) (draws : CreateDraws)
      (revisions : RevisionCreator) (app : AppGuid) (droplet : Option DropletGuid)
      (user : UserAuditInfo) (d : Deployment),
      store.tables.Built → revisions.SparesDeployments →
      Deployment.create store sink log draws revisions app droplet user = (.ok d, store', log') →
      store'.tables.deploying app = [d] ∧
        (∀ x ∈ store.tables.deploying app,
          store'.tables.deployment? x.guid = some (x.ended draws.time)) ∧
        ∀ x ∈ store.tables.deployments, x ∉ store.tables.deploying app →
          store'.tables.deployment? x.guid = some x := by
  refine ⟨?_, fun store hb app => Deployment.sweptAround hb.intact.deployments, ?_⟩
  · intro sink log calls hcalls store app
    have h : store.tables.Exclusive :=
      Call.exclusive_invariant.from_empty hcalls Tables.exclusive_empty
    exact ⟨h.single app, Deployment.sweptAround h.guids⟩
  · intro sink log log' store store' draws revisions app droplet user d hb hs h
    obtain ⟨-, e, t', ht, -, rfl⟩ := Deployment.create_ok.mp h
    have hk := hb.intact.deployments
    have hrows := (Deployment.createIn_deployments hk hs ht).1
    -- Each old row is still found by its guid, since the guids stay distinct.
    have hlookup : ∀ x ∈ store.tables.deployments,
        t'.deployment? x.guid = some (x.superseded draws.time app) := by
      intro x hx
      have hx : x.superseded draws.time app ∈ t'.deployments :=
        hrows ▸ List.mem_append_left _ (List.mem_map_of_mem hx)
      exact find_key_of_mem (Deployment.createIn_guids hk hs ht) hx (Deployment.superseded_guid x)
    refine ⟨?_, ?_, ?_⟩
    · exact (Deployment.createIn_deploying hk hs ht).trans (if_pos rfl)
    · intro x hx
      obtain ⟨hx, ha⟩ := Tables.mem_deploying.mp hx
      exact (hlookup x hx).trans (congrArg some (if_pos ha))
    · intro x hx hn
      have ha : ¬ (x.app = app ∧ x.isDeploying = true) :=
        fun ha => hn (Tables.mem_deploying.mpr ⟨hx, ha⟩)
      exact (hlookup x hx).trans (congrArg some (if_neg ha))

theorem rollouts_exclusive_of_shop :
    (∀ c ∈ Sample.busy, c.Within Operation.SparesDeployments RevisionCreator.SparesDeployments) ∧
    Sample.settled.tables.deployments.length = 2 ∧
    (Sample.settled.tables.deploying ⟨"shop"⟩).length ≤ 1 ∧
    (Deployment.prune Sample.settled ⟨"shop"⟩ 0).2.tables.deployments.length = 1 ∧
    (Deployment.prune Sample.settled ⟨"shop"⟩ 0).2.tables.deploying ⟨"shop"⟩ =
      Sample.settled.tables.deploying ⟨"shop"⟩ ∧
    (Tables.after Sample.crowded).Built ∧
    ((Tables.after Sample.crowded).deploying ⟨"shop"⟩).length = 2 ∧
    ∃ d store' log', Sample.relaunch = (.ok d, store', log') ∧
      store'.tables.deploying ⟨"shop"⟩ = [d] := by
  have hopening : (Script.each (Sample.opening "shop")).Calls Operation.SparesDeployments :=
    Script.each_calls (by simp [Sample.opening, Operation.SparesDeployments])
  have hcalls : ∀ c ∈ Sample.busy,
      c.Within Operation.SparesDeployments RevisionCreator.SparesDeployments := by
    simp [Sample.busy, Sample.rollout, Call.Within, Revision.sequential_spares, hopening]
  have hrun := rollouts_exclusive.1 .memory [] Sample.busy hcalls ⟨"shop"⟩
  have hsettled : (Call.runAll .memory ⟨.empty, []⟩ Sample.busy).2.store = Sample.settled := rfl
  rw [hsettled] at hrun
  have hbuilt : (Tables.after Sample.crowded).Built := Tables.built_after _
  refine ⟨hcalls, by decide +kernel, hrun.1, by decide +kernel, hrun.2.1 _ _, hbuilt,
    by decide +kernel, ?_⟩
  have hok : Sample.relaunch.1.toBool = true := by decide +kernel
  rcases h : Sample.relaunch with ⟨e | d, store', log'⟩
  · rw [h] at hok
    cases hok
  · refine ⟨d, store', log', rfl, ?_⟩
    exact (rollouts_exclusive.2.2 _ _ _ _ _ _ _ _ _ _ _ hbuilt (Revision.sequential_spares _ _) h).1

end Main

end Rollout
