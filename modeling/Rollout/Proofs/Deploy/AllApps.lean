import Mathlib.Algebra.Ring.Nat
import Rollout.Proofs.Deploy.Composition

/-! Sweeps of all apps: what goes is settled app by app, whichever app comes first. -/

namespace Rollout

namespace Tables

variable {t : Tables} {app : AppGuid} {apps apps' : List AppGuid} {limit l : Nat}
variable {guids others : List DeploymentGuid} {d : Deployment}

lemma without_congr (h : ∀ g, g ∈ guids ↔ g ∈ others) : t.without guids = t.without others := by
  simp only [without, h]

lemma deploymentsOf_without_congr
    (h : ∀ d ∈ t.deployments, d.app = app → (d.guid ∈ guids ↔ d.guid ∈ others)) :
    (t.without guids).deploymentsOf app = (t.without others).deploymentsOf app := by
  rw [deploymentsOf_without, deploymentsOf_without]
  apply List.filter_congr
  intro d hd
  obtain ⟨hd, happ⟩ := List.mem_filter.mp (mem_sortByCreation.mp hd)
  rw [decide_eq_decide]
  exact not_congr (h d hd (of_decide_eq_true happ))

def condemned (t : Tables) (apps : List AppGuid) (limit : Nat) : List DeploymentGuid :=
  apps.flatMap fun app => (t.doomed app limit).map (·.guid)

def sweptEach (t : Tables) (apps : List AppGuid) (limit : Nat) : Tables :=
  t.without (t.condemned apps limit)

lemma sweptEach_singleton : t.sweptEach [app] limit = t.swept app limit := by
  rw [sweptEach, condemned, List.flatMap_singleton, swept]

lemma sweptEach_perm (h : apps.Perm apps') : t.sweptEach apps limit = t.sweptEach apps' limit :=
  without_congr fun _ => (h.flatMap_right _).mem_iff

lemma mem_condemned (h : (t.deployments.map (·.guid)).Nodup) (hd : d ∈ t.deployments) :
    d.guid ∈ t.condemned apps limit ↔ d.app ∈ apps ∧ d ∈ t.doomed d.app limit := by
  rw [condemned, List.mem_flatMap]
  constructor
  · rintro ⟨app, happ, hm⟩
    have hdoomed : d ∈ t.doomed app limit := (mem_doomed_guids h hd).mp hm
    obtain rfl : d.app = app := (mem_doomed hdoomed).2.1
    exact ⟨happ, hdoomed⟩
  · rintro ⟨happ, hdoomed⟩
    exact ⟨d.app, happ, List.mem_map_of_mem hdoomed⟩

lemma deploymentsOf_sweptEach (h : (t.deployments.map (·.guid)).Nodup) (happ : app ∈ apps) :
    (t.sweptEach apps limit).deploymentsOf app = (t.swept app limit).deploymentsOf app := by
  apply deploymentsOf_without_congr
  rintro d hd rfl
  rw [mem_condemned h hd, mem_doomed_guids h hd]
  exact and_iff_right happ

lemma deploymentsOf_sweptEach_other (h : (t.deployments.map (·.guid)).Nodup) (happ : app ∉ apps) :
    (t.sweptEach apps limit).deploymentsOf app = t.deploymentsOf app := by
  have hsame : (t.sweptEach apps limit).deploymentsOf app = (t.without []).deploymentsOf app := by
    apply deploymentsOf_without_congr
    rintro d hd rfl
    rw [mem_condemned h hd]
    exact iff_of_false (fun hm => happ hm.1) List.not_mem_nil
  rwa [without_nil] at hsame

lemma doomed_sweptEach_other (h : (t.deployments.map (·.guid)).Nodup) (happ : app ∉ apps) :
    (t.sweptEach apps limit).doomed app l = t.doomed app l :=
  congrArg (Deployment.doomed l) (deploymentsOf_sweptEach_other h happ)

lemma doomed_swept_other (h : (t.deployments.map (·.guid)).Nodup) {a : AppGuid} (ha : a ≠ app) :
    (t.swept app limit).doomed a l = t.doomed a l := by
  rw [← sweptEach_singleton]
  exact doomed_sweptEach_other h fun hm => ha (List.mem_singleton.mp hm)

lemma sweptEach_cons (h : (t.deployments.map (·.guid)).Nodup) (happ : app ∉ apps) :
    (t.swept app limit).sweptEach apps limit = t.sweptEach (app :: apps) limit := by
  have hrest : (t.swept app limit).condemned apps limit = t.condemned apps limit := by
    apply List.flatMap_congr
    intro a ha
    rw [doomed_swept_other h (ne_of_mem_of_not_mem ha happ)]
  rw [sweptEach, hrest, swept, without_without, sweptEach, condemned, condemned, List.flatMap_cons]

lemma doomed_sweptEach (h : (t.deployments.map (·.guid)).Nodup) (happ : app ∈ apps)
    (hle : limit ≤ l) : (t.sweptEach apps limit).doomed app l = [] := by
  have hsame : (t.sweptEach apps limit).doomed app l = (t.swept app limit).doomed app l :=
    congrArg (Deployment.doomed l) (deploymentsOf_sweptEach h happ)
  have htwice : t.doomed app limit ++ (t.swept app limit).doomed app l = t.doomed app limit := by
    rw [doomed_swept h, Nat.min_eq_left hle]
  rw [hsame]
  exact List.append_right_eq_self.mp htwice

/-- `t'` is what is left of `t` when every stored app is swept down to `limit` deployments. -/
structure Thinned (limit : Nat) (t t' : Tables) : Prop where
  left : ∀ app ∈ t.appGuids, (t'.deploymentsOf app).length =
    max (min (t.deploymentsOf app).length limit) (t.deploying app).length
  unlisted : t'.deployments.filter (·.app ∉ t.appGuids) =
    t.deployments.filter (·.app ∉ t.appGuids)
  history : ∀ d ∈ t.deployments, d.app ∉ t.appGuids → t'.historyOf d.guid = t.historyOf d.guid
  apps : t'.apps = t.apps
  droplets : t'.droplets = t.droplets
  revisions : t'.revisions = t.revisions
  processes : t'.processes = t.processes
  mappings : t'.routeMappings = t.routeMappings

lemma thinned_sweptEach (h : t.Intact) : Thinned limit t (t.sweptEach t.appGuids limit) where
  left := by
    intro app happ
    rw [deploymentsOf_sweptEach h.deployments happ]
    exact (retained_swept h).left
  unlisted := by
    apply filter_filter_of_imp
    intro d hd happ
    rw [decide_eq_true_eq, mem_condemned h.deployments hd]
    exact fun hm => of_decide_eq_true happ hm.1
  history := by
    intro d hd happ
    apply historyOf_without
    rw [mem_condemned h.deployments hd]
    exact fun hm => happ hm.1
  apps := rfl
  droplets := rfl
  revisions := rfl
  processes := rfl
  mappings := rfl

end Tables

namespace Deployment

/-- Sweeps of `apps`, one after another, lead from one store to the other, each with its count. -/
inductive Sweeps (limit : Nat) : Store → List AppGuid → List Nat → Store → Prop
  | nil (s : Store) : Sweeps limit s [] [] s
  | cons {s s' s'' : Store} {app : AppGuid} {apps : List AppGuid} {n : Nat} {counts : List Nat} :
      prune s app limit = (.ok n, s') → Sweeps limit s' apps counts s'' →
      Sweeps limit s (app :: apps) (n :: counts) s''

variable {store s s' : Store} {app : AppGuid} {apps : List AppGuid} {limit l k : Nat}
variable {counts : List Nat}

def count (store : Store) (limit : Nat) (app : AppGuid) : Nat :=
  (store.tables.doomed app limit).length

lemma sweeps_intact (h : store.tables.Intact) (ha : store.available = true) (happs : apps.Nodup) :
    Sweeps limit store apps (apps.map (count store limit))
      { store with tables := store.tables.sweptEach apps limit } := by
  induction apps generalizing store with
  | nil =>
    have hnone : store.tables.sweptEach [] limit = store.tables := Tables.without_nil
    rw [hnone]
    exact .nil store
  | cons app apps ih =>
    obtain ⟨happ, happs⟩ := List.nodup_cons.mp happs
    let first : Store := { store with tables := store.tables.swept app limit }
    have hrest : Sweeps limit first apps (apps.map (count first limit)) _ :=
      ih (h.without _) ha happs
    -- The other apps have as many to lose after the first sweep as before it.
    have hcounts : apps.map (count first limit) = apps.map (count store limit) := by
      apply List.map_congr_left
      intro a hm
      exact congrArg List.length
        (Tables.doomed_swept_other h.deployments (ne_of_mem_of_not_mem hm happ))
    rw [hcounts, Tables.sweptEach_cons h.deployments happ] at hrest
    exact .cons (prune_intact h ha app limit) hrest

lemma pruneEach_of_sweeps (h : Sweeps limit s apps counts s') :
    pruneEach limit k s apps = (.ok (k + counts.sum), s') := by
  induction h generalizing k with
  | nil s => rfl
  | cons hp _ ih =>
    rw [pruneEach, hp, List.sum_cons, ← Nat.add_assoc]
    exact ih

lemma pruneAll_intact (h : store.tables.Intact) (ha : store.available = true) :
    pruneAll store limit = (.ok (store.tables.appGuids.map (count store limit)).sum,
      { store with tables := store.tables.sweptEach store.tables.appGuids limit }) := by
  have hask : store.transaction id (Tx.ask (·.appGuids)) = (.ok store.tables.appGuids, store) :=
    Store.transaction_ok.mpr ⟨ha, _, rfl, rfl⟩
  have hnodup : store.tables.appGuids.Nodup := h.apps
  rw [pruneAll, hask]
  dsimp only
  rw [pruneEach_of_sweeps (sweeps_intact h ha hnodup), Nat.zero_add]

lemma pruneAll_again (h : store.tables.Intact) (ha : store.available = true) (hle : limit ≤ l) :
    let s : Store := { store with tables := store.tables.sweptEach store.tables.appGuids limit }
    pruneAll s l = (.ok 0, s) := by
  intro s
  have hnone : ∀ app ∈ s.tables.appGuids, s.tables.doomed app l = [] := fun app happ =>
    Tables.doomed_sweptEach h.deployments happ hle
  have hcounts : s.tables.appGuids.map (count s l) = s.tables.appGuids.map fun _ => 0 :=
    List.map_congr_left fun app happ => congrArg List.length (hnone app happ)
  have hcondemned : s.tables.condemned s.tables.appGuids l = [] := by
    rw [Tables.condemned, List.flatMap_eq_nil_iff]
    intro app happ
    rw [hnone app happ, List.map_nil]
  have hs : s.tables.Intact := h.without _
  have hagain : pruneAll s l = _ := pruneAll_intact hs ha
  rw [hcounts, Tables.sweptEach, hcondemned, Tables.without_nil] at hagain
  simpa using hagain

lemma pruneAll_unavailable (ha : store.available = false) :
    pruneAll store limit = (.error Store.disabled, store) := by
  simp only [pruneAll, Store.transaction, ha, Bool.false_eq_true, if_false, id_eq]

end Deployment

/--
A sweep of all apps does what sweeps of the stored apps do in any order, each of which takes as many
as it would on its own. Deployments of apps that are not stored stay, and a second sweep that allows
as many finds nothing to take.
-/
theorem app_sweeps_independent {store : Store} (h : store.tables.Built) (limit : Nat) :
    (store.available = false →
      Deployment.pruneAll store limit = (.error Store.disabled, store)) ∧
    (store.available = true → ∃ (count : AppGuid → Nat) (s : Store),
      Deployment.pruneAll store limit = (.ok (store.tables.appGuids.map count).sum, s) ∧
      (∀ app, (Deployment.prune store app limit).1 = .ok (count app)) ∧
      (∀ apps : List AppGuid, apps.Perm store.tables.appGuids →
        Deployment.Sweeps limit store apps (apps.map count) s) ∧
      s.available = true ∧ Tables.Thinned limit store.tables s.tables ∧
      ∀ l, limit ≤ l → Deployment.pruneAll s l = (.ok 0, s)) := by
  have hi := h.intact
  refine ⟨Deployment.pruneAll_unavailable, fun ha => ?_⟩
  refine ⟨Deployment.count store limit,
    { store with tables := store.tables.sweptEach store.tables.appGuids limit },
    Deployment.pruneAll_intact hi ha, ?_, ?_, ha, Tables.thinned_sweptEach hi, ?_⟩
  · intro app
    rw [Deployment.prune_intact hi ha]
    rfl
  · intro apps hperm
    rw [← Tables.sweptEach_perm hperm]
    exact Deployment.sweeps_intact hi ha (hperm.nodup_iff.mpr hi.apps)
  · exact fun l hle => Deployment.pruneAll_again hi ha hle

namespace Sample

/-- Two apps to sweep, and a deployment of an app that is not stored. -/
def scattered : Store where
  tables := .after (archive ++ [
    .insertDeployment (closed "store" "newer" 6),
    .insertDeployment (closed "ghost" "lost" 2),
    .insertHistory ⟨⟨"lost"⟩, ⟨"ghost"⟩, "web", ⟨5, 0⟩⟩])
  available := true

end Sample

theorem app_sweeps_independent_of_shops :
    Sample.scattered.tables.Built ∧ Sample.scattered.available = true ∧
    (∃ s, Deployment.pruneAll Sample.scattered 1 = (.ok 4, s) ∧
      Deployment.Sweeps 1 Sample.scattered [⟨"store"⟩, ⟨"shop"⟩] [1, 3] s ∧
      s.tables.deployments.map (·.guid.text) = ["going", "newer", "lost"] ∧
      (s.tables.historyOf ⟨"lost"⟩).length = 1 ∧
      1 ≤ 2 ∧ Deployment.pruneAll s 2 = (.ok 0, s)) ∧
    let closed : Store := { Sample.scattered with available := false }
    closed.available = false ∧ Deployment.pruneAll closed 1 = (.error Store.disabled, closed) := by
  have hbuilt : Sample.scattered.tables.Built := Tables.built_after _
  have hclosed : ({ Sample.scattered with available := false } : Store).tables.Built := hbuilt
  refine ⟨hbuilt, rfl, ?_, rfl, (app_sweeps_independent hclosed 1).1 rfl⟩
  obtain ⟨count, s, hall, hown, hany, -, -, hagain⟩ := (app_sweeps_independent hbuilt 1).2 rfl
  have hshop : (Deployment.prune Sample.scattered ⟨"shop"⟩ 1).1.toOption = some 3 := by
    decide +kernel
  have hstore : (Deployment.prune Sample.scattered ⟨"store"⟩ 1).1.toOption = some 1 := by
    decide +kernel
  rw [hown] at hshop hstore
  have happs : Sample.scattered.tables.appGuids = [⟨"shop"⟩, ⟨"store"⟩] := by decide +kernel
  have hsweeps := hany [⟨"store"⟩, ⟨"shop"⟩] (by rw [happs]; exact .swap _ _ _)
  have hrows : (Deployment.pruneAll Sample.scattered 1).2.tables.deployments.map (·.guid.text) =
      ["going", "newer", "lost"] := by decide +kernel
  have hpast : ((Deployment.pruneAll Sample.scattered 1).2.tables.historyOf ⟨"lost"⟩).length = 1 := by
    decide +kernel
  rw [hall] at hrows hpast
  rw [happs] at hall
  simp only [List.map_cons, List.map_nil, List.sum_cons, List.sum_nil, Option.some.inj hshop,
    Option.some.inj hstore] at hall hsweeps
  exact ⟨s, hall, hsweeps, hrows, hpast, by decide, hagain 2 (by decide)⟩

end Rollout
