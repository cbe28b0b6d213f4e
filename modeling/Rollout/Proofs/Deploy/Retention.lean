import Rollout.Proofs.Deploy.InFlight
import Rollout.Proofs.Store.Seniority

/-! How many deployments of an app a sweep leaves, and which. -/

namespace Rollout

lemma Deployment.isPrunable_state (d : Deployment) : d.state.isPrunable = !d.isDeploying := by
  unfold isDeploying
  cases d.state <;> rfl

namespace Tables

variable {t : Tables} {app : AppGuid} {limit : Nat} {d : Deployment}

def prunable (t : Tables) (app : AppGuid) : List Deployment :=
  (t.deploymentsOf app).filter (·.state.isPrunable)

lemma doomed_eq :
    t.doomed app limit = (t.prunable app).take ((t.deploymentsOf app).length - limit) := rfl

def swept (t : Tables) (app : AppGuid) (limit : Nat) : Tables :=
  t.without ((t.doomed app limit).map (·.guid))

lemma mem_swept (h : (t.deployments.map (·.guid)).Nodup) :
    d ∈ (t.swept app limit).deployments ↔ d ∈ t.deployments ∧ d ∉ t.doomed app limit := by
  simp only [swept, without, List.mem_filter, decide_eq_true_eq]
  exact and_congr_right fun hd => not_congr (mem_doomed_guids h hd)

lemma deploymentsOf_without {guids : List DeploymentGuid} :
    (t.without guids).deploymentsOf app = (t.deploymentsOf app).filter (·.guid ∉ guids) := by
  simp only [deploymentsOf, without, sortByCreation_filter, List.filter_filter, Bool.and_comm]

lemma length_deploying :
    (t.deploying app).length = ((t.deploymentsOf app).filter Deployment.isDeploying).length := by
  have hperm : ((t.deploymentsOf app).filter Deployment.isDeploying).Perm
      ((t.deployments.filter (·.app = app)).filter Deployment.isDeploying) :=
    (sortByCreation_perm _).filter _
  rw [hperm.length_eq, deploying, List.filter_filter]
  simp only [Bool.decide_and, Bool.decide_eq_true, Bool.and_comm]

lemma length_prunable :
    (t.prunable app).length + (t.deploying app).length = (t.deploymentsOf app).length := by
  rw [length_deploying, Nat.add_comm,
    List.length_eq_length_filter_add (l := t.deploymentsOf app) Deployment.isDeploying]
  simp only [prunable, Deployment.isPrunable_state]

lemma length_swept (h : (t.deployments.map (·.guid)).Nodup) :
    (t.doomed app limit).length + ((t.swept app limit).deploymentsOf app).length =
      (t.deploymentsOf app).length := by
  have hlisted : ((t.deploymentsOf app).map (·.guid)).Nodup :=
    nodup_sortByCreation (nodup_filter_key h)
  have hgone : ((t.deploymentsOf app).filter (·.guid ∈ (t.doomed app limit).map (·.guid))).Perm
      (t.doomed app limit) := by
    rw [List.perm_ext_iff_of_nodup (nodup_filter_key hlisted).of_map (nodup_doomed h).of_map]
    intro d
    rw [List.mem_filter, decide_eq_true_eq]
    constructor
    · rintro ⟨hd, hm⟩
      have hd : d ∈ t.deployments := List.mem_of_mem_filter (mem_sortByCreation.mp hd)
      exact (mem_doomed_guids h hd).mp hm
    · intro hd
      exact ⟨List.mem_of_mem_filter (List.mem_of_mem_take hd), List.mem_map_of_mem hd⟩
  rw [swept, deploymentsOf_without, ← hgone.length_eq,
    List.length_eq_length_filter_add (l := t.deploymentsOf app)
      (·.guid ∈ (t.doomed app limit).map (·.guid))]
  simp only [decide_not]

lemma doomed_precedes {s : Deployment} (hd : d ∈ t.doomed app limit) (hs : s ∈ t.deployments)
    (happ : s.app = app) (hn : s.isDeploying = false) (hstays : s ∉ t.doomed app limit) :
    Precedes (·.createdAt) t.deployments d s := by
  let excess := (t.deploymentsOf app).length - limit
  have hlisted : s ∈ t.prunable app := by
    simp [prunable, deploymentsOf, Deployment.isPrunable_state, hs, happ, hn]
  have horder : ((t.prunable app).take excess ++ (t.prunable app).drop excess).Pairwise
      (Precedes (·.createdAt) (t.deployments.filter (·.app = app))) := by
    rw [List.take_append_drop]
    exact (sortByCreation_precedes _).filter _
  rw [← List.take_append_drop excess (t.prunable app)] at hlisted
  have hlast : s ∈ (t.prunable app).drop excess :=
    (List.mem_append.mp hlisted).resolve_left hstays
  exact ((List.pairwise_append.mp horder).2.2 d hd s hlast).of_filter

/-- `t'` is what a sweep of `app` down to `limit` deployments leaves of `t` when it takes `n`. -/
structure Retained (app : AppGuid) (limit n : Nat) (t t' : Tables) : Prop where
  left : (t'.deploymentsOf app).length =
    max (min (t.deploymentsOf app).length limit) (t.deploying app).length
  taken : (t.deploymentsOf app).length = n + (t'.deploymentsOf app).length
  inFlight : ∀ d ∈ t.deployments, d.isDeploying = true → d ∈ t'.deployments
  oldest : ∀ d ∈ t.deployments, d ∉ t'.deployments →
    ∀ s ∈ t'.deployments, s.app = app → s.isDeploying = false →
      Precedes (·.createdAt) t.deployments d s
  rows : t'.deployments.Sublist t.deployments
  listing : (t'.deploymentsOf app).Sublist (t.deploymentsOf app)
  others : t'.deployments.filter (·.app ≠ app) = t.deployments.filter (·.app ≠ app)
  history : t'.historicalProcesses =
    t.historicalProcesses.filter (·.deployment ∈ t'.deployments.map (·.guid))
  apps : t'.apps = t.apps
  droplets : t'.droplets = t.droplets
  revisions : t'.revisions = t.revisions
  processes : t'.processes = t.processes
  mappings : t'.routeMappings = t.routeMappings

lemma history_without (h : t.Intact) (guids : List DeploymentGuid) :
    (t.without guids).historicalProcesses = t.historicalProcesses.filter
      (·.deployment ∈ (t.without guids).deployments.map (·.guid)) := by
  apply List.filter_congr
  intro r hr
  obtain ⟨d, hd, he⟩ := List.mem_map.mp (h.history r hr)
  rw [decide_eq_decide]
  constructor
  · intro hstays
    exact List.mem_map.mpr ⟨d, List.mem_filter.mpr ⟨hd, decide_eq_true (he ▸ hstays)⟩, he⟩
  · intro hm
    obtain ⟨c, hc, hce⟩ := List.mem_map.mp hm
    exact hce ▸ of_decide_eq_true (List.mem_filter.mp hc).2

lemma retained_swept (h : t.Intact) :
    Retained app limit (t.doomed app limit).length t (t.swept app limit) := by
  have hguids := h.deployments
  have hcount : (t.doomed app limit).length + ((t.swept app limit).deploymentsOf app).length =
      (t.deploymentsOf app).length := length_swept hguids
  refine
    { left := ?_, taken := hcount.symm, inFlight := ?_, oldest := ?_, rows := List.filter_sublist,
      listing := ?_, others := ?_, history := history_without h _, apps := rfl, droplets := rfl,
      revisions := rfl, processes := rfl, mappings := rfl }
  · have hprunable : (t.prunable app).length + (t.deploying app).length =
        (t.deploymentsOf app).length := length_prunable
    rw [doomed_eq, List.length_take] at hcount
    omega
  · intro d hd hin
    refine (mem_swept hguids).mpr ⟨hd, fun hm => ?_⟩
    have hp := (mem_doomed hm).2.2
    rw [Deployment.isPrunable_state, hin] at hp
    cases hp
  · intro d hd hgone s hs happ hn
    obtain ⟨hs, hstays⟩ := (mem_swept hguids).mp hs
    have hd : d ∈ t.doomed app limit :=
      not_not.mp fun hnot => hgone ((mem_swept hguids).mpr ⟨hd, hnot⟩)
    exact doomed_precedes hd hs happ hn hstays
  · rw [swept, deploymentsOf_without]
    exact List.filter_sublist
  · apply filter_filter_of_imp
    intro d hd happ
    refine decide_eq_true fun hm => of_decide_eq_true happ ?_
    exact (mem_doomed ((mem_doomed_guids hguids hd).mp hm)).2.1

end Tables

/--
A sweep takes the oldest finished deployments of its app, as many as are too many or as there are
of them, with their history, and nothing else.
-/
theorem retention_exact {store : Store} (h : store.tables.Built) (ha : store.available = true)
    (app : AppGuid) (limit : Nat) :
    ∃ n t', Deployment.prune store app limit = (.ok n, { store with tables := t' }) ∧
      Tables.Retained app limit n store.tables t' :=
  ⟨_, _, Store.transaction_ok.mpr ⟨ha, _, Deployment.pruneIn_intact h.intact, rfl⟩,
    Tables.retained_swept h.intact⟩

namespace Sample

def closed (app guid : String) (second : Int) : Deployment :=
  ⟨⟨guid⟩, ⟨app⟩, none, none, .deployed, none, 1, none, ⟨second, 0⟩, ⟨second, 0⟩⟩

/-- Two rows of the same second, the younger inserted first, and one in flight between them. -/
def archive : List Operation :=
  opening "shop" ++ opening "store" ++ [
    .insertDeployment (closed "shop" "last" 9),
    .insertDeployment (closed "shop" "tie" 4),
    .insertDeployment (inFlight "shop" "going"),
    .insertDeployment (closed "shop" "first" 4),
    .insertDeployment (closed "store" "other" 1),
    .insertHistory ⟨⟨"tie"⟩, ⟨"shop"⟩, "web", ⟨5, 0⟩⟩,
    .insertHistory ⟨⟨"last"⟩, ⟨"shop"⟩, "web", ⟨5, 0⟩⟩]

def archived : Store := ⟨.after archive, true⟩

end Sample

theorem retention_exact_of_shop :
    Sample.archived.tables.Built ∧ Sample.archived.available = true ∧
    (Sample.archived.tables.deploymentsOf ⟨"shop"⟩).length = 4 ∧
    (Sample.archived.tables.deploying ⟨"shop"⟩).length = 1 ∧
    ∃ t', Deployment.prune Sample.archived ⟨"shop"⟩ 3 = (.ok 1, ⟨t', true⟩) ∧
      t'.deployments.map (·.guid.text) = ["last", "going", "first", "other"] ∧
      t'.historicalProcesses.length = 1 ∧
      Tables.Retained ⟨"shop"⟩ 3 1 Sample.archived.tables t' := by
  have hbuilt : Sample.archived.tables.Built := Tables.built_after _
  refine ⟨hbuilt, rfl, by decide +kernel, by decide +kernel, ?_⟩
  obtain ⟨n, t', hp, hr⟩ := retention_exact hbuilt rfl ⟨"shop"⟩ 3
  have hn : (Deployment.prune Sample.archived ⟨"shop"⟩ 3).1.toOption = some 1 := by decide +kernel
  have hrows : (Deployment.prune Sample.archived ⟨"shop"⟩ 3).2.tables.deployments.map
      (·.guid.text) = ["last", "going", "first", "other"] := by decide +kernel
  have hpast : (Deployment.prune Sample.archived ⟨"shop"⟩
      3).2.tables.historicalProcesses.length = 1 := by decide +kernel
  rw [hp] at hn hrows hpast
  obtain rfl : n = 1 := Option.some.inj hn
  exact ⟨t', hp, hrows, hpast, hr⟩

end Rollout
