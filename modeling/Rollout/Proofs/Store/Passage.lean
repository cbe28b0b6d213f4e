import Rollout.Proofs.Store.Refinement

/-!
The states on the way of transactions, the ones in the middle of a transaction among them, and
operations that fail without ending theirs.
-/

namespace Rollout

variable {ε α : Type} {t : Tables} {op : Operation}

namespace Operation

/-- Only a look-up can answer with an error on its own; it has no effect either way. -/
lemma effect_of_answer_error {e : StoreError} (h : op.answer t = .error e) :
    op.effect t = .ok t := by
  cases op with
  | app guid => rfl
  | _ => cases h

lemma run_error {e : StoreError} (h : (op.run t).1 = .error e) : (op.run t).2 = t := by
  rw [run_eq] at h ⊢
  cases he : op.effect t with
  | ok u =>
    rw [he] at h
    have hu : op.effect t = .ok t := effect_of_answer_error h
    rw [he] at hu
    exact Except.ok.inj hu
  | error e => rfl

end Operation

namespace Script

variable {I : Tables → Prop}

/-- The tables before and after each of a script's operations. -/
def passed : Script ε α → Tables → List Tables
  | finish _, t => [t]
  | call op next, t => t :: (next (op.run t).1).passed (op.run t).2

lemma run_mem_passed (script : Script ε α) (t : Tables) : (script.run t).2 ∈ script.passed t := by
  induction script generalizing t with
  | finish result => exact List.mem_singleton.mpr rfl
  | call op next ih => exact List.mem_cons_of_mem t (ih _ _)

lemma passed_keeps (hI : Tables.Lasting (fun _ => True) I) (script : Script ε α) (h : I t) :
    ∀ u ∈ script.passed t, I u := by
  induction script generalizing t with
  | finish result =>
    intro u hu
    rwa [List.mem_singleton.mp hu]
  | call op next ih =>
    intro u hu
    rcases List.mem_cons.mp hu with rfl | hu
    · exact h
    · exact ih _ (hI.run trivial h) u hu

lemma run_call_error {next : Except StoreError Answer → Script ε α} {e : StoreError}
    (h : (op.run t).1 = .error e) : (call op next).run t = (next (.error e)).run t := by
  simp only [run, h, Operation.run_error h]

end Script

namespace Store

variable (wrap : StoreError → ε) {I : Tables → Prop} {s : Store}

def after : Store → List (Event ε α) → Store
  | s, [] => s
  | s, .transact script :: events => (s.submit wrap script).2.after events
  | s, .setAvailable available :: events => { s with available }.after events

lemma after_keeps (hI : Tables.Lasting (fun _ => True) I) (events : List (Event ε α))
    (h : I s.tables) : I (s.after wrap events).tables := by
  induction events generalizing s with
  | nil => exact h
  | cons event events ih =>
    cases event with
    | transact script =>
      apply ih
      refine transaction_keeps h fun a u hu => ?_
      have hpassed := script.passed_keeps hI h _ (script.run_mem_passed s.tables)
      rwa [hu] at hpassed
    | setAvailable available => exact ih h

end Store

/--
Whatever transactions did before and however they ended, tables are intact at every point of the
next one. In it an operation that fails has no part in what follows, also if the script goes on.
-/
theorem integrity_lasts (wrap : StoreError → ε) (events : List (Event ε α))
    (script : Script ε α) :
    (∀ t ∈ script.passed (Store.empty.after wrap events).tables, t.Intact) ∧
    ∀ (op : Operation) (t : Tables) (e : StoreError), (op.run t).1 = .error e →
      (op.run t).2 = t ∧
      ∀ next : Except StoreError Answer → Script ε α,
        (Script.call op next).run t = (next (.error e)).run t := by
  refine ⟨?_, ?_⟩
  · apply script.passed_keeps Tables.lasting_intact
    exact Store.after_keeps wrap Tables.lasting_intact events Tables.intact_empty
  · intro op t e h
    exact ⟨Operation.run_error h, fun _ => Script.run_call_error h⟩

namespace Sample

/-- Goes on after the deletion that fails, and after the duplicate. -/
def dogged : Script StoreError Unit :=
  .call (.deleteDeployment ⟨"four"⟩) fun _ =>
  .call (.insertDeployment (rolling "three" 1)) fun _ =>
  .call (.insertHistory ⟨⟨"three"⟩, ⟨"web"⟩, "web", ⟨4, 0⟩⟩) fun _ =>
  .call (.deleteDeployment ⟨"three"⟩) fun _ => .finish (.ok ())

def settledTables : Tables := (Store.empty.after id sessions).tables

end Sample

theorem integrity_lasts_of_shop :
    (Sample.dogged.passed Sample.settledTables).length = 5 ∧
    (∀ t ∈ Sample.dogged.passed Sample.settledTables, t.Intact) ∧
    ((Operation.deleteDeployment ⟨"four"⟩).run Sample.settledTables).1 =
      .error (.deploymentNotFound "four") ∧
    ((Operation.deleteDeployment ⟨"four"⟩).run Sample.settledTables).2 = Sample.settledTables := by
  have hfails : ((Operation.deleteDeployment ⟨"four"⟩).run Sample.settledTables).1 =
      .error (.deploymentNotFound "four") := by rfl
  have hall := integrity_lasts id Sample.sessions Sample.dogged
  exact ⟨rfl, hall.1, hfails, (hall.2 _ _ _ hfails).1⟩

end Rollout
