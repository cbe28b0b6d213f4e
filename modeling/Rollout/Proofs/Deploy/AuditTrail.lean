import Mathlib.Data.List.Forall2
import Rollout.Proofs.Run

/-! The events of a run are those of its creations. -/

namespace Rollout

namespace AuditEvent

/-- The event says which app the deployment is of, and which droplet it rolls out. -/
structure Mirrors (e : AuditEvent) (d : Deployment) : Prop where
  type : e.type = "audit.app.deployment.create"
  actee : e.actee = d.app.text
  metadata : ∃ droplet, d.droplet = some droplet ∧ e.metadata.entries =
    [("deployment_guid", d.guid.text), ("droplet_guid", droplet.text)]

end AuditEvent

namespace Launch

lemma metadata_entries (droplet deployment : String) :
    (Dictionary.ofList [("droplet_guid", droplet), ("deployment_guid", deployment)]).entries =
      [("deployment_guid", deployment), ("droplet_guid", droplet)] := by
  have hlt : "deployment_guid" < "droplet_guid" := by decide
  simp only [Dictionary.ofList, List.foldl_cons, List.foldl_nil, Dictionary.insert,
    Dictionary.empty, Dictionary.place, hlt, if_true]

lemma event_mirrors (l : Launch) (draws : CreateDraws) (user : UserAuditInfo) (n : UInt32)
    (r : Revision) :
    (l.event draws user (l.deployment draws n r)).Mirrors (l.deployment draws n r) where
  type := rfl
  actee := rfl
  metadata := ⟨l.droplet.guid, rfl, metadata_entries _ _⟩

end Launch

namespace Deployment

variable {store store' : Store} {log log' : List AuditEvent} {draws : CreateDraws}
variable {revisions : RevisionCreator} {app : AppGuid} {droplet : Option DropletGuid}
variable {user : UserAuditInfo}

lemma create_recorded {d : Deployment}
    (h : create store .memory log draws revisions app droplet user = (.ok d, store', log')) :
    ∃ e : AuditEvent, log' = log ++ [e] ∧ e.Mirrors d := by
  obtain ⟨-, e, t, ht, hlog, -⟩ := create_ok.mp h
  obtain ⟨l, n, u, -, -, hd, he, -⟩ := createIn_ok ht
  dsimp only at hd he
  subst he hd
  cases hlog
  exact ⟨_, rfl, l.event_mirrors draws user _ n⟩

lemma create_unrecorded {e : DeployError}
    (h : create store .memory log draws revisions app droplet user = (.error e, store', log')) :
    log' = log := by
  obtain ⟨-, rfl | ⟨event, x, hx⟩⟩ := create_error h
  · rfl
  · cases hx

end Deployment

namespace Call

lemma run_log (c : Call) (s : System (List AuditEvent)) :
    ∃ events, (c.run .memory s).2.log = s.log ++ events ∧
      List.Forall₂ AuditEvent.Mirrors events (created [(c.run .memory s).1]) := by
  cases c with
  | create draws revisions app droplet user =>
    rcases h : Deployment.create s.store .memory s.log draws revisions app droplet user with
      ⟨e | d, store, log⟩
    · have hlog : log = s.log := Deployment.create_unrecorded h
      refine ⟨[], ?_, ?_⟩
      · simp only [run, h, hlog, List.append_nil]
      · simp only [run, h]
        exact .nil
    · obtain ⟨e, hlog, hm⟩ := Deployment.create_recorded h
      refine ⟨[e], ?_, ?_⟩
      · simp only [run, h, hlog]
      · simp only [run, h]
        exact .cons hm .nil
  | prune app limit => exact ⟨[], (List.append_nil _).symm, .nil⟩
  | pruneAll limit => exact ⟨[], (List.append_nil _).symm, .nil⟩
  | transact script => exact ⟨[], (List.append_nil _).symm, .nil⟩
  | setAvailable available => exact ⟨[], (List.append_nil _).symm, .nil⟩

lemma runAll_log (calls : List Call) (s : System (List AuditEvent)) :
    ∃ events, (runAll .memory s calls).2.log = s.log ++ events ∧
      List.Forall₂ AuditEvent.Mirrors events (created (runAll .memory s calls).1) := by
  induction calls generalizing s with
  | nil => exact ⟨[], (List.append_nil _).symm, .nil⟩
  | cons c calls ih =>
    obtain ⟨first, hfirst, hm⟩ := c.run_log s
    obtain ⟨rest, hrest, hms⟩ := ih (c.run .memory s).2
    refine ⟨first ++ rest, ?_, ?_⟩
    · rw [← List.append_assoc, ← hfirst]
      exact hrest
    · have hall : List.Forall₂ AuditEvent.Mirrors (first ++ rest)
          (created [(c.run .memory s).1] ++ created (runAll .memory (c.run .memory s).2 calls).1) :=
        List.rel_append hm hms
      rwa [← created_cons] at hall

end Call

/-- A creation is written and recorded, or neither. -/
theorem trail_mirrors_creations :
    (∀ {σ : Type} (sink : AuditSink σ) (log log' : σ) (store store' : Store) (draws : CreateDraws)
      (revisions : RevisionCreator) (app : AppGuid) (droplet : Option DropletGuid)
      (user : UserAuditInfo) (e : DeployError),
      Deployment.create store sink log draws revisions app droplet user = (.error e, store', log') →
      store' = store) ∧
    (∀ (store : Store) (calls : List Call),
      List.Forall₂ AuditEvent.Mirrors (Call.runAll .memory ⟨store, []⟩ calls).2.log
        (created (Call.runAll .memory ⟨store, []⟩ calls).1)) ∧
    ∀ (c : Call) (s : System (List AuditEvent)),
      created [(c.run .memory s).1] = [] → (c.run .memory s).2.log = s.log := by
  refine ⟨?_, ?_, ?_⟩
  · intro σ sink log log' store store' draws revisions app droplet user e h
    exact (Deployment.create_error h).1
  · intro store calls
    obtain ⟨events, hlog, hm⟩ := Call.runAll_log calls ⟨store, []⟩
    rw [List.nil_append] at hlog
    rwa [hlog]
  · intro c s hc
    obtain ⟨events, hlog, hm⟩ := c.run_log s
    rw [hc, List.forall₂_nil_right_iff] at hm
    rw [hlog, hm, List.append_nil]

theorem trail_mirrors_creations_of_shop :
    (∃ e store' log', Sample.refused = (.error e, store', log') ∧
      store' = ⟨.after Sample.crowded, true⟩) ∧
    ((Call.runAll .memory ⟨.empty, []⟩ Sample.interrupted).2.log.length = 2 ∧
      List.Forall₂ AuditEvent.Mirrors (Call.runAll .memory ⟨.empty, []⟩ Sample.interrupted).2.log
        (created (Call.runAll .memory ⟨.empty, []⟩ Sample.interrupted).1)) ∧
    (created [((Sample.rollout "store" "one" 10).run .memory ⟨.empty, []⟩).1] = [] ∧
      ((Sample.rollout "store" "one" 10).run .memory ⟨.empty, []⟩).2.log = []) := by
  have hnone : created [((Sample.rollout "store" "one" 10).run .memory ⟨.empty, []⟩).1] = [] := by
    decide +kernel
  refine ⟨?_, ⟨by decide +kernel, trail_mirrors_creations.2.1 _ _⟩, hnone,
    trail_mirrors_creations.2.2 _ _ hnone⟩
  have hfails : Sample.refused.1.toBool = false := by decide +kernel
  rcases h : Sample.refused with ⟨e | d, store', log'⟩
  · exact ⟨e, store', log', rfl, trail_mirrors_creations.1 _ _ _ _ _ _ _ _ _ _ _ h⟩
  · rw [h] at hfails
    cases hfails

end Rollout
