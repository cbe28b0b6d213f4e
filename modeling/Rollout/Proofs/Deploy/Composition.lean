import Rollout.Proofs.Deploy.Retention

/-! Sweeps of one app, one after another, come to a single sweep. -/

namespace Rollout

namespace Tables

variable {t : Tables} {app : AppGuid} {limit a b : Nat}

lemma without_without (guids others : List DeploymentGuid) :
    (t.without guids).without others = t.without (guids ++ others) := by
  simp only [without, List.filter_filter, List.mem_append, not_or, Bool.decide_and, Bool.and_comm]

lemma prunable_swept (h : (t.deployments.map (·.guid)).Nodup) :
    (t.swept app limit).prunable app =
      (t.prunable app).drop ((t.deploymentsOf app).length - limit) := by
  have hlisted : ((t.prunable app).map (·.guid)).Nodup :=
    nodup_filter_key (nodup_sortByCreation (nodup_filter_key h))
  rw [← filter_key_not_mem_take hlisted, prunable, swept, deploymentsOf_without, doomed_eq,
    prunable, List.filter_comm]

/-- What a second sweep takes comes right after what the first one took. -/
lemma doomed_swept (h : (t.deployments.map (·.guid)).Nodup) :
    t.doomed app a ++ (t.swept app a).doomed app b = t.doomed app (min a b) := by
  have hcount : (t.doomed app a).length + ((t.swept app a).deploymentsOf app).length =
      (t.deploymentsOf app).length := length_swept h
  have hprunable : (t.prunable app).length + (t.deploying app).length =
      (t.deploymentsOf app).length := length_prunable
  rw [doomed_eq, List.length_take] at hcount
  rw [doomed_eq, doomed_eq, doomed_eq, prunable_swept h, ← List.take_add, List.take_eq_take_iff]
  omega

lemma swept_swept (h : (t.deployments.map (·.guid)).Nodup) :
    (t.swept app a).swept app b = t.swept app (min a b) := by
  rw [swept, swept, without_without, ← List.map_append]
  exact congrArg (fun ds => t.without (ds.map (·.guid))) (doomed_swept h)

end Tables

namespace Deployment

variable {store : Store} {app : AppGuid} {a b : Nat}

lemma prune_intact (h : store.tables.Intact) (ha : store.available = true) (app : AppGuid)
    (limit : Nat) :
    prune store app limit = (.ok (store.tables.doomed app limit).length,
      { store with tables := store.tables.swept app limit }) :=
  Store.transaction_ok.mpr ⟨ha, _, pruneIn_intact h, rfl⟩

lemma prune_prune (h : store.tables.Intact) (ha : store.available = true) :
    prune (prune store app a).2 app b = (.ok ((store.tables.swept app a).doomed app b).length,
      { store with tables := store.tables.swept app (min a b) }) := by
  let s : Store := { store with tables := store.tables.swept app a }
  have hs : s.tables.Intact := h.without _
  rw [prune_intact h ha, ← Tables.swept_swept h.deployments]
  exact prune_intact hs ha app b

/-- The deployments that a sweep deletes. -/
def deleted (store : Store) (app : AppGuid) (limit : Nat) : List Deployment :=
  store.tables.deployments.filter (· ∉ (prune store app limit).2.tables.deployments)

lemma deleted_subset (h : store.tables.Intact) (ha : store.available = true) (hle : a ≤ b) :
    deleted store app b ⊆ deleted store app a := by
  intro d hd
  obtain ⟨hstored, hgone⟩ := List.mem_filter.mp hd
  refine List.mem_filter.mpr ⟨hstored, decide_eq_true fun hstays => of_decide_eq_true hgone ?_⟩
  rw [prune_intact h ha] at hstays ⊢
  -- What the smaller limit leaves is left by a second sweep after that with the larger one.
  have hsecond : store.tables.swept app a = (store.tables.swept app b).swept app a := by
    rw [Tables.swept_swept h.deployments, Nat.min_eq_right hle]
  rw [hsecond] at hstays
  exact List.mem_of_mem_filter hstays

end Deployment

/--
Two sweeps of an app do what one down to the smaller limit does, and count as many in all. Their
order does not matter to the tables, a second sweep that allows as many takes nothing, and what a
larger limit takes a smaller one takes too.
-/
theorem sweeps_compose {store : Store} (h : store.tables.Built) (ha : store.available = true)
    (app : AppGuid) (a b : Nat) :
    ∃ m n s s',
      Deployment.prune store app a = (.ok m, s) ∧ Deployment.prune s app b = (.ok n, s') ∧
      Deployment.prune store app (min a b) = (.ok (m + n), s') ∧
      (Deployment.prune (Deployment.prune store app b).2 app a).2 = s' ∧
      (a ≤ b →
        n = 0 ∧ s' = s ∧ Deployment.deleted store app b ⊆ Deployment.deleted store app a) := by
  have hi := h.intact
  let t := store.tables
  let s' : Store := { store with tables := t.swept app (min a b) }
  have hfirst : Deployment.prune store app a = (.ok (t.doomed app a).length, _) :=
    Deployment.prune_intact hi ha app a
  have hsecond : Deployment.prune (Deployment.prune store app a).2 app b =
      (.ok ((t.swept app a).doomed app b).length, s') := Deployment.prune_prune hi ha
  have hsingle : Deployment.prune store app (min a b) =
      (.ok ((t.doomed app a).length + ((t.swept app a).doomed app b).length), s') := by
    rw [Deployment.prune_intact hi ha, ← List.length_append, Tables.doomed_swept hi.deployments]
  have hreverse : (Deployment.prune (Deployment.prune store app b).2 app a).2 = s' := by
    rw [Deployment.prune_prune hi ha, Nat.min_comm]
  rw [hfirst] at hsecond
  refine ⟨_, _, _, s', hfirst, hsecond, hsingle, hreverse, fun hle => ?_⟩
  have hsame := hsingle
  rw [Nat.min_eq_left hle, hfirst] at hsame
  obtain ⟨hcount, hstore⟩ := Prod.mk.inj hsame
  have hcount : (t.doomed app a).length = (t.doomed app a).length + _ := Except.ok.inj hcount
  exact ⟨by omega, hstore.symm, Deployment.deleted_subset hi ha hle⟩

theorem sweeps_compose_of_shop :
    Sample.archived.tables.Built ∧ Sample.archived.available = true ∧
    ∃ s s',
      Deployment.prune Sample.archived ⟨"shop"⟩ 3 = (.ok 1, s) ∧
      Deployment.prune s ⟨"shop"⟩ 0 = (.ok 2, s') ∧
      Deployment.prune Sample.archived ⟨"shop"⟩ 0 = (.ok 3, s') ∧
      s'.tables.deployments.map (·.guid.text) = ["going", "other"] := by
  have hbuilt : Sample.archived.tables.Built := Tables.built_after _
  obtain ⟨m, n, s, s', hfirst, hsecond, hsingle, -⟩ := sweeps_compose hbuilt rfl ⟨"shop"⟩ 3 0
  have hm : (Deployment.prune Sample.archived ⟨"shop"⟩ 3).1.toOption = some 1 := by decide +kernel
  have hsum : (Deployment.prune Sample.archived ⟨"shop"⟩ 0).1.toOption = some 3 := by decide +kernel
  have hleft : (Deployment.prune Sample.archived ⟨"shop"⟩ 0).2.tables.deployments.map
      (·.guid.text) = ["going", "other"] := by decide +kernel
  rw [Nat.min_eq_right (Nat.zero_le 3)] at hsingle
  rw [hfirst] at hm
  rw [hsingle] at hsum hleft
  obtain rfl : m = 1 := Option.some.inj hm
  obtain rfl : n = 2 := Nat.add_left_cancel (Option.some.inj hsum)
  exact ⟨hbuilt, rfl, s, s', hfirst, hsecond, hsingle, hleft⟩

end Rollout
