import Rollout.Deploy.Prune
import Rollout.Proofs.Store.Integrity

/-! What the retention sweep of one app deletes. -/

namespace Rollout

variable {t t' : Tables} {app : AppGuid} {limit : Nat}

namespace Tables

def without (t : Tables) (guids : List DeploymentGuid) : Tables :=
  { t with
    deployments := t.deployments.filter (·.guid ∉ guids)
    historicalProcesses := t.historicalProcesses.filter (·.deployment ∉ guids) }

@[simp] lemma without_nil : t.without [] = t := by
  simp [without]

lemma without_cons {guid : DeploymentGuid} {guids : List DeploymentGuid} :
    t.without (guid :: guids) =
      { t with
        deployments := t.deployments.filter (·.guid ≠ guid)
        historicalProcesses :=
          t.historicalProcesses.filter (·.deployment ≠ guid) }.without guids := by
  simp only [without, List.filter_filter, List.mem_cons, not_or, Bool.decide_and, Bool.and_comm]

lemma historyOf_without {guids : List DeploymentGuid} {guid : DeploymentGuid} (h : guid ∉ guids) :
    (t.without guids).historyOf guid = t.historyOf guid := by
  rw [historyOf, without, List.filter_filter, historyOf]
  apply List.filter_congr
  intro r _
  by_cases hr : r.deployment = guid
  · simp only [hr, h, not_false_iff, decide_true, Bool.and_self]
  · simp only [hr, decide_false, Bool.false_and]

lemma Intact.without (h : t.Intact) (guids : List DeploymentGuid) : (t.without guids).Intact := by
  refine { h with deployments := nodup_filter_key h.deployments, history := ?_ }
  intro r hr
  obtain ⟨hr, hnot⟩ := List.mem_filter.mp hr
  obtain ⟨d, hd, he⟩ := List.mem_map.mp (h.history r hr)
  refine List.mem_map.mpr ⟨d, List.mem_filter.mpr ⟨hd, ?_⟩, he⟩
  rwa [he]

def doomed (t : Tables) (app : AppGuid) (limit : Nat) : List Deployment :=
  Deployment.doomed limit (t.deploymentsOf app)

lemma mem_doomed {d : Deployment} (h : d ∈ t.doomed app limit) :
    d ∈ t.deployments ∧ d.app = app ∧ d.state.isPrunable = true := by
  have hf := List.mem_of_mem_take h
  simp only [List.mem_filter, deploymentsOf, mem_sortByCreation, decide_eq_true_eq] at hf
  exact ⟨hf.1.1, hf.1.2, hf.2⟩

lemma mem_doomed_guids (h : (t.deployments.map (·.guid)).Nodup) {d : Deployment}
    (hd : d ∈ t.deployments) :
    d.guid ∈ (t.doomed app limit).map (·.guid) ↔ d ∈ t.doomed app limit := by
  refine ⟨fun hm => ?_, List.mem_map_of_mem⟩
  obtain ⟨c, hc, he⟩ := List.mem_map.mp hm
  obtain rfl := List.inj_on_of_nodup_map h (mem_doomed hc).1 hd he
  exact hc

lemma nodup_doomed (h : (t.deployments.map (·.guid)).Nodup) :
    ((t.doomed app limit).map (·.guid)).Nodup := by
  have hs : ((t.deploymentsOf app).map (·.guid)).Nodup :=
    nodup_sortByCreation (nodup_filter_key h)
  exact hs.sublist (((List.take_sublist _ _).trans List.filter_sublist).map _)

end Tables

namespace Deployment

lemma deleteAll_ok {guids : List DeploymentGuid} {a : Unit} :
    deleteAll guids t = (.ok a, t') ↔
      guids.Nodup ∧ (∀ g ∈ guids, g ∈ t.deployments.map (·.guid)) ∧ t' = t.without guids := by
  induction guids generalizing t with
  | nil =>
    rw [deleteAll, Tx.pure_ok]
    simp [eq_comm]
  | cons guid guids ih =>
    simp only [deleteAll, Tx.deleteDeployment_eq, Tx.bind_ok, Tx.change_ok,
      Tables.deleteDeployment_ok, ih]
    constructor
    · rintro ⟨_, u, ⟨hg, rfl⟩, hn, hm, rfl⟩
      refine ⟨List.nodup_cons.mpr ⟨?_, hn⟩, ?_, Tables.without_cons.symm⟩
      · intro hc
        exact (mem_filter_key.mp (hm guid hc)).2 rfl
      · intro g hc
        rcases List.mem_cons.mp hc with rfl | hc
        · exact hg
        · exact (mem_filter_key.mp (hm g hc)).1
    · rintro ⟨hn, hm, rfl⟩
      obtain ⟨hnot, hn⟩ := List.nodup_cons.mp hn
      refine ⟨(), _, ⟨hm guid (by simp), rfl⟩, hn, ?_, Tables.without_cons⟩
      intro g hc
      exact mem_filter_key.mpr ⟨hm g (by simp [hc]), ne_of_mem_of_not_mem hc hnot⟩

lemma pruneIn_ok {n : Nat} (h : pruneIn app limit t = (.ok n, t')) :
    n = (t.doomed app limit).length ∧ t' = t.without ((t.doomed app limit).map (·.guid)) := by
  simp only [pruneIn, Tx.bind_ok, Tx.ask_ok, Tx.pure_ok] at h
  obtain ⟨_, _, ⟨rfl, rfl⟩, _, u, hd, rfl, rfl⟩ := h
  exact ⟨rfl, (deleteAll_ok.mp hd).2.2⟩

lemma pruneIn_intact (h : t.Intact) :
    pruneIn app limit t = (.ok (t.doomed app limit).length,
      t.without ((t.doomed app limit).map (·.guid))) := by
  simp only [pruneIn, Tx.bind_ok, Tx.ask_ok, Tx.pure_ok]
  have hnodup : ((t.doomed app limit).map (·.guid)).Nodup := Tables.nodup_doomed h.deployments
  refine ⟨_, t, ⟨rfl, rfl⟩, (), _, deleteAll_ok.mpr ⟨hnodup, ?_, rfl⟩, rfl, rfl⟩
  intro g hg
  obtain ⟨d, hd, rfl⟩ := List.mem_map.mp hg
  exact List.mem_map_of_mem (Tables.mem_doomed hd).1

variable {store : Store} {I : Tables → Prop}

lemma prune_keeps (hI : ∀ t, I t → I (t.without ((t.doomed app limit).map (·.guid))))
    (h : I store.tables) : I (prune store app limit).2.tables := by
  refine Store.transaction_keeps h fun n t ht => ?_
  obtain ⟨-, rfl⟩ := pruneIn_ok ht
  exact hI _ h

lemma pruneAll_keeps (hI : ∀ app t, I t → I (t.without ((t.doomed app limit).map (·.guid))))
    (h : I store.tables) : I (pruneAll store limit).2.tables := by
  have heach : ∀ (apps : List AppGuid) (n : Nat) (s : Store), I s.tables →
      I (pruneEach limit n s apps).2.tables := by
    intro apps
    induction apps with
    | nil => exact fun _ _ hs => hs
    | cons app apps ih =>
      intro n s hs
      have hp := prune_keeps (hI app) hs
      rw [pruneEach]
      rcases he : prune s app limit with ⟨e | k, s'⟩
      · rwa [he] at hp
      · rw [he] at hp
        exact ih _ _ hp
  unfold pruneAll Store.transaction
  cases store.available with
  | false => exact h
  | true => exact heach _ 0 _ h

end Deployment

end Rollout
