import Rollout.Proofs.Deploy.InFlight
import Rollout.Proofs.Deploy.Linkage

/-! The rollouts of an app hand on the instance count that the first of them found. -/

namespace Rollout

namespace Tables

variable {t : Tables} {app : AppGuid} {l : Launch}

lemma inFlight_perm : (t.inFlight app).Perm (t.deploying app) := by
  have hsorted : (t.deploymentsOf app).Perm (t.deployments.filter (·.app = app)) :=
    sortByCreation_perm _
  have hf := hsorted.filter Deployment.isDeploying
  rw [List.filter_filter] at hf
  refine hf.trans (.of_eq (List.filter_congr fun d _ => ?_))
  rw [Bool.and_comm, Bool.decide_and, Bool.decide_eq_true]

lemma instancesFor_idle (h : t.deploying l.app.guid = []) : t.instancesFor l = l.web.instances := by
  have hnone : t.inFlight l.app.guid = [] := (h ▸ inFlight_perm).eq_nil
  rw [instancesFor, hnone]
  rfl

lemma instancesFor_rolling {d : Deployment} (h : t.deploying l.app.guid = [d]) :
    t.instancesFor l = d.originalWebProcessInstanceCount := by
  have hone : t.inFlight l.app.guid = [d] := (h ▸ inFlight_perm).eq_singleton
  rw [instancesFor, hone]
  rfl

/-- The rollout in flight of an app has the count of all its rollouts before. -/
structure Carried (ds : List Deployment) (t : Tables) : Prop where
  guids : (t.deployments.map (·.guid)).Nodup
  idle : ∀ app, Deployment.sequence ds app = [] → t.deploying app = []
  rolling : ∀ d ∈ ds, ∃ x, t.deploying d.app = [x] ∧
    x.originalWebProcessInstanceCount = d.originalWebProcessInstanceCount

variable {t' : Tables} {ds : List Deployment}

lemma carried_empty : empty.Carried [] := by
  refine ⟨?_, ?_, ?_⟩ <;> simp [empty, deploying]

lemma Carried.congr (h : t.Carried ds) (he : t'.deployments = t.deployments) : t'.Carried ds where
  guids := he ▸ h.guids
  idle := fun app ha => (deploying_congr he).trans (h.idle app ha)
  rolling := fun d hd => deploying_congr he ▸ h.rolling d hd

lemma Carried.without (h : t.Carried ds) {limit : Nat} :
    (t.without ((t.doomed app limit).map (·.guid))).Carried ds where
  guids := nodup_filter_key h.guids
  idle := fun a ha => (deploying_without h.guids).trans (h.idle a ha)
  rolling := fun d hd => deploying_without h.guids ▸ h.rolling d hd

lemma Carried.count_eq (h : t.Carried ds) {c d : Deployment} (hc : c ∈ ds) (hd : d ∈ ds)
    (happ : c.app = d.app) :
    c.originalWebProcessInstanceCount = d.originalWebProcessInstanceCount := by
  obtain ⟨x, hx, hxc⟩ := h.rolling c hc
  obtain ⟨y, hy, hyd⟩ := h.rolling d hd
  rw [happ, hy] at hx
  obtain rfl : y = x := List.singleton_inj.mp hx
  exact hxc.symm.trans hyd

lemma Carried.instancesFor (h : t.Carried ds) {d : Deployment} (hd : d ∈ ds)
    (happ : d.app = l.app.guid) : t.instancesFor l = d.originalWebProcessInstanceCount := by
  obtain ⟨x, hx, hcount⟩ := h.rolling d hd
  exact (instancesFor_rolling (happ ▸ hx)).trans hcount

end Tables

namespace Deployment

variable {t t' : Tables} {draws : CreateDraws} {revisions : RevisionCreator} {app : AppGuid}
variable {droplet : Option DropletGuid} {user : UserAuditInfo} {d : Deployment} {e : AuditEvent}

lemma createIn_count (h : createIn draws revisions app droplet user t = (.ok (d, e), t')) :
    ∃ l, t.launch? app droplet = .ok l ∧
      d.originalWebProcessInstanceCount = t.instancesFor l := by
  obtain ⟨l, r, u, hl, -, hd, -⟩ := createIn_ok h
  dsimp only at hd
  exact ⟨l, hl, hd ▸ rfl⟩

lemma createIn_carried {ds : List Deployment} (hs : revisions.SparesDeployments)
    (ht : t.Carried ds) (h : createIn draws revisions app droplet user t = (.ok (d, e), t')) :
    t'.Carried (ds ++ [d]) := by
  obtain ⟨l, hl, hcount⟩ := createIn_count h
  have hlapp : l.app.guid = app := (Tables.app_of_launch? hl).2
  have happ : d.app = app := createIn_app h
  have hrolling : ∀ a, t'.deploying a = if a = app then [d] else t.deploying a :=
    fun a => createIn_deploying ht.guids hs h
  refine ⟨createIn_guids ht.guids hs h, ?_, ?_⟩
  · intro a ha
    rw [sequence_append, List.append_eq_nil_iff] at ha
    have hne : a ≠ app := by
      rintro rfl
      exact sequence_eq_nil.mp ha.2 d (List.mem_singleton_self d) happ
    rw [hrolling, if_neg hne]
    exact ht.idle a ha.1
  · intro x hx
    rw [hrolling]
    rcases List.mem_append.mp hx with hx | hx
    · split
      · next hxa => exact ⟨d, rfl, hcount.trans (ht.instancesFor hx (hxa.trans hlapp.symm))⟩
      · exact ht.rolling x hx
    · obtain rfl := List.mem_singleton.mp hx
      exact ⟨x, if_pos happ, rfl⟩

end Deployment

namespace Call

lemma carried_invariant :
    Invariant Operation.SparesDeployments RevisionCreator.SparesDeployments
      (fun ds t => t.Carried ds) where
  create := fun hs h hc => Deployment.createIn_carried hs h hc
  prune := fun h => h.without
  transact := fun _ _ _ hop h he => h.congr (hop.effect he)

variable {σ : Type} {sink : AuditSink σ} {s : System σ} {calls : List Call} {app : AppGuid}

lemma first_created
    (h : Deployment.sequence (created (runAll sink s calls).1) app ≠ []) :
    ∃ before c after d, calls = before ++ c :: after ∧
      Deployment.sequence (created (runAll sink s before).1) app = [] ∧
      (c.run sink (runAll sink s before).2).1 = .created (.ok d) ∧ d.app = app := by
  induction calls generalizing s with
  | nil => exact absurd rfl h
  | cons c calls ih =>
    have hsplit : created (runAll sink s (c :: calls)).1 =
        created [(c.run sink s).1] ++ created (runAll sink (c.run sink s).2 calls).1 :=
      created_cons _ _
    rw [hsplit, Deployment.sequence_append] at h
    -- The first rollout of the app comes of `c`, or else of a later call.
    by_cases hc : Deployment.sequence (created [(c.run sink s).1]) app = []
    · rw [hc, List.nil_append] at h
      obtain ⟨before, c', after, d, rfl, hnone, hd, happ⟩ := ih h
      refine ⟨c :: before, c', after, d, rfl, ?_, hd, happ⟩
      have hfirst : created (runAll sink s (c :: before)).1 =
          created [(c.run sink s).1] ++ created (runAll sink (c.run sink s).2 before).1 :=
        created_cons _ _
      rw [hfirst, Deployment.sequence_append, hc, hnone, List.append_nil]
    · obtain ⟨d, hd⟩ := List.exists_mem_of_ne_nil _ hc
      obtain ⟨hd, happ⟩ := Deployment.mem_sequence.mp hd
      exact ⟨[], c, calls, d, rfl, rfl, (List.mem_singleton.mp (mem_created.mp hd)).symm, happ⟩

end Call

/--
All rollouts of an app record one instance count, that of the oldest web process when the first of
them was created.
-/
theorem original_count_kept {σ : Type} (sink : AuditSink σ) (log : σ) (calls : List Call)
    (hcalls : ∀ c ∈ calls,
      c.Within Operation.SparesDeployments RevisionCreator.SparesDeployments)
    (app : AppGuid)
    (happ : Deployment.sequence (created (Call.runAll sink ⟨.empty, log⟩ calls).1) app ≠ []) :
    ∃ before draws revisions droplet user after d web,
      calls = before ++ .create draws revisions app droplet user :: after ∧
      let earlier := Call.runAll sink ⟨.empty, log⟩ before
      Deployment.sequence (created earlier.1) app = [] ∧
        ((Call.create draws revisions app droplet user).run sink earlier.2).1 = .created (.ok d) ∧
        earlier.2.store.tables.oldestWeb? app = some web ∧
        ∀ x ∈ Deployment.sequence (created (Call.runAll sink ⟨.empty, log⟩ calls).1) app,
          x.originalWebProcessInstanceCount = web.instances := by
  obtain ⟨before, c, after, d, rfl, hnone, hd, hdapp⟩ := Call.first_created happ
  have hearlier : ∀ x ∈ before,
      x.Within Operation.SparesDeployments RevisionCreator.SparesDeployments :=
    fun x hx => hcalls x (List.mem_append_left _ hx)
  let t₀ := (Call.runAll sink ⟨.empty, log⟩ before).2.store.tables
  have hbefore : t₀.Carried (created (Call.runAll sink ⟨.empty, log⟩ before).1) :=
    Call.carried_invariant.from_empty hearlier Tables.carried_empty
  let t₁ := (Call.runAll sink ⟨.empty, log⟩ (before ++ c :: after)).2.store.tables
  have hall : t₁.Carried (created (Call.runAll sink ⟨.empty, log⟩ (before ++ c :: after)).1) :=
    Call.carried_invariant.from_empty hcalls Tables.carried_empty
  have hmem : d ∈ created (Call.runAll sink ⟨.empty, log⟩ (before ++ c :: after)).1 := by
    refine mem_created.mpr ?_
    rw [Call.runAll_append]
    exact List.mem_append_right _ (hd ▸ List.mem_cons_self)
  obtain ⟨draws, revisions, a, droplet, user, e, t, rfl, ht⟩ := Call.created_of_run hd
  obtain rfl : a = app := (Deployment.createIn_app ht).symm.trans hdapp
  obtain ⟨l, hl, hcount⟩ := Deployment.createIn_count ht
  obtain rfl : l.app.guid = a := (Tables.app_of_launch? hl).2
  have hidle : t₀.deploying l.app.guid = [] := hbefore.idle _ hnone
  refine ⟨before, draws, revisions, droplet, user, after, d, l.web, rfl, hnone, hd,
    (Tables.launch?_ok.mp hl).2.2, fun x hx => ?_⟩
  obtain ⟨hx, hxapp⟩ := Deployment.mem_sequence.mp hx
  calc x.originalWebProcessInstanceCount
      = d.originalWebProcessInstanceCount := hall.count_eq hx hmem (hxapp.trans hdapp.symm)
    _ = t₀.instancesFor l := hcount
    _ = l.web.instances := Tables.instancesFor_idle hidle

namespace Sample

def olderWeb : AppProcess :=
  { AppProcess.initial ⟨"old"⟩ ⟨"shop"⟩ .web ⟨0, 0⟩ with instances := 5 }

def rescaled : List Call := [
  .transact (.each (opening "shop")),
  rollout "shop" "one" 10,
  .transact (.each [.insertProcess olderWeb]),
  .prune ⟨"shop"⟩ 0,
  rollout "shop" "two" 20,
  .pruneAll 0,
  rollout "shop" "three" 30]

def rescaling : List Outcome × System (List AuditEvent) :=
  Call.runAll .memory ⟨.empty, []⟩ rescaled

end Sample

theorem original_count_kept_of_shop :
    (∀ c ∈ Sample.rescaled,
      c.Within Operation.SparesDeployments RevisionCreator.SparesDeployments) ∧
    (Sample.rescaling.2.store.tables.oldestWeb? ⟨"shop"⟩).map (·.instances) = some 5 ∧
    (Deployment.sequence (created Sample.rescaling.1) ⟨"shop"⟩).map
      (·.originalWebProcessInstanceCount) = [1, 1, 1] ∧
    ∃ before web, before <+: Sample.rescaled ∧
      (Call.runAll .memory ⟨.empty, []⟩ before).2.store.tables.oldestWeb? ⟨"shop"⟩ = some web ∧
      ∀ x ∈ Deployment.sequence (created Sample.rescaling.1) ⟨"shop"⟩,
        x.originalWebProcessInstanceCount = web.instances := by
  have hopening : (Script.each (Sample.opening "shop")).Calls Operation.SparesDeployments :=
    Script.each_calls (by simp [Sample.opening, Operation.SparesDeployments])
  have holder : (Script.each [.insertProcess Sample.olderWeb]).Calls Operation.SparesDeployments :=
    Script.each_calls (by simp [Operation.SparesDeployments])
  have hcalls : ∀ c ∈ Sample.rescaled,
      c.Within Operation.SparesDeployments RevisionCreator.SparesDeployments := by
    simp [Sample.rescaled, Sample.rollout, Call.Within, Revision.sequential_spares, hopening,
      holder]
  have hcounts : (Deployment.sequence (created Sample.rescaling.1) ⟨"shop"⟩).map
      (·.originalWebProcessInstanceCount) = [1, 1, 1] := by decide +kernel
  refine ⟨hcalls, by decide +kernel, hcounts, ?_⟩
  have hsome : Deployment.sequence (created Sample.rescaling.1) ⟨"shop"⟩ ≠ [] := by
    intro hnone
    rw [hnone] at hcounts
    cases hcounts
  obtain ⟨before, _, _, _, _, _, _, web, hsplit, -, -, hweb, hkept⟩ :=
    original_count_kept .memory [] Sample.rescaled hcalls ⟨"shop"⟩ hsome
  exact ⟨before, web, ⟨_, hsplit.symm⟩, hweb, hkept⟩

end Rollout
