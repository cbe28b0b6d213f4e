import Rollout.Proofs.Store.Relational

/-! The store gives every answer that its relations give, whatever became of earlier transactions. -/

namespace Rollout

namespace Script

variable {ε α S T : Type}

/-- The answers that a script gets, its result, and the state that it leaves. -/
def play (respond : Operation → S → Except StoreError Answer × S) :
    Script ε α → S → List (Except StoreError Answer) × Except ε α × S
  | finish result, s => ([], result, s)
  | call op next, s =>
    let (answer, s) := respond op s
    let (answers, result, s) := (next answer).play respond s
    (answer :: answers, result, s)

lemma play_run (script : Script ε α) (t : Tables) :
    (script.play Operation.run t).2 = script.run t := by
  induction script generalizing t with
  | finish result => rfl
  | call op next ih => exact ih _ _

variable (R : S → T → Prop) {respond : Operation → S → Except StoreError Answer × S}
variable {respond' : Operation → T → Except StoreError Answer × T}

/-- Scripts cannot tell two states apart that answer alike at every step. -/
lemma play_agrees
    (h : ∀ op {s t}, R s t →
      (respond op s).1 = (respond' op t).1 ∧ R (respond op s).2 (respond' op t).2)
    (script : Script ε α) {s : S} {t : T} (hst : R s t) :
    (script.play respond s).1 = (script.play respond' t).1 ∧
      (script.play respond s).2.1 = (script.play respond' t).2.1 ∧
      R (script.play respond s).2.2 (script.play respond' t).2.2 := by
  induction script generalizing s t with
  | finish result => exact ⟨rfl, rfl, hst⟩
  | call op next ih =>
    obtain ⟨hanswer, hnext⟩ := h op hst
    obtain ⟨hanswers, hrest⟩ := ih (respond' op t).1 hnext
    simp only [play, hanswer]
    exact ⟨congrArg _ hanswers, hrest⟩

end Script

/-- What a transaction shows: the answers that it got, and its result. -/
structure Reply (ε α : Type) where
  answers : List (Except StoreError Answer)
  result : Except ε α

inductive Event (ε α : Type) where
  | transact (script : Script ε α)
  | setAvailable (available : Bool)

structure RelationalStore where
  relations : Relations
  available : Bool

variable {ε α : Type} (wrap : StoreError → ε)

namespace Store

def submit (s : Store) (script : Script ε α) : Reply ε α × Store :=
  let (result, s') := s.transaction wrap script.run
  (⟨if s.available then (script.play Operation.run s.tables).1 else [], result⟩, s')

def replies : Store → List (Event ε α) → List (Reply ε α)
  | _, [] => []
  | s, .transact script :: events =>
    let (reply, s) := s.submit wrap script
    reply :: s.replies events
  | s, .setAvailable available :: events => { s with available }.replies events

end Store

namespace RelationalStore

def empty : RelationalStore := ⟨.empty, true⟩

/-- A script that fails leaves the relations as they were. -/
def submit (s : RelationalStore) (script : Script ε α) : Reply ε α × RelationalStore :=
  if s.available then
    match script.play Relations.respond s.relations with
    | (answers, .ok a, relations) => (⟨answers, .ok a⟩, { s with relations })
    | (answers, .error e, _) => (⟨answers, .error e⟩, s)
  else (⟨[], .error (wrap Store.disabled)⟩, s)

def replies : RelationalStore → List (Event ε α) → List (Reply ε α)
  | _, [] => []
  | s, .transact script :: events =>
    let (reply, s) := s.submit wrap script
    reply :: s.replies events
  | s, .setAvailable available :: events => { s with available }.replies events

structure Mirrors (r : RelationalStore) (s : Store) : Prop where
  relations : r.relations.Represents s.tables
  available : r.available = s.available

end RelationalStore

lemma Relations.Represents.respond {r : Relations} {t : Tables} (h : r.Represents t)
    (op : Operation) :
    (op.run t).1 = (Relations.respond op r).1 ∧
      (Relations.respond op r).2.Represents (op.run t).2 := by
  have hread : r.read op = op.answer t := h.read op
  have hwrite : Relations.Agrees Relations.Represents (r.write op) (op.effect t) := h.write op
  rw [op.run_eq, Relations.respond]
  generalize r.write op = written at hwrite
  generalize op.effect t = changed at hwrite
  cases hwrite with
  | ok hnext => exact ⟨hread.symm, hnext⟩
  | error e => exact ⟨rfl, h⟩

namespace RelationalStore

variable {r : RelationalStore} {s : Store}

lemma mirrors_empty : empty.Mirrors .empty := ⟨Relations.represents_empty, rfl⟩

lemma Mirrors.submit (h : r.Mirrors s) (script : Script ε α) :
    (s.submit wrap script).1 = (r.submit wrap script).1 ∧
      (r.submit wrap script).2.Mirrors (s.submit wrap script).2 := by
  obtain ⟨hanswers, hend, hlast⟩ := script.play_agrees
    (fun t (r : Relations) => r.Represents t)
    (fun op _ _ hr => Relations.Represents.respond hr op) h.relations
  rw [Store.submit, RelationalStore.submit, Store.transaction, h.available, ← script.play_run]
  cases s.available with
  | false => exact ⟨rfl, h⟩
  | true =>
    simp only [if_true]
    generalize script.play Operation.run s.tables = concrete at *
    generalize script.play Relations.respond r.relations = abstract at *
    obtain ⟨answers, result, t⟩ := concrete
    obtain ⟨answers', result', t'⟩ := abstract
    cases hanswers
    cases hend
    cases result with
    | ok a => exact ⟨rfl, hlast, rfl⟩
    | error e => exact ⟨rfl, h⟩

lemma Mirrors.replies {events : List (Event ε α)} (h : r.Mirrors s) :
    s.replies wrap events = r.replies wrap events := by
  induction events generalizing r s with
  | nil => rfl
  | cons event events ih =>
    cases event with
    | transact script =>
      obtain ⟨hreply, hnext⟩ := h.submit wrap script
      rw [Store.replies, RelationalStore.replies]
      exact congrArg₂ List.cons hreply (ih hnext)
    | setAvailable available => exact ih ⟨h.relations, rfl⟩

end RelationalStore

/--
Transactions may call anything, go by the answers and end either way, on a store that comes and
goes: they are answered as finite maps answer. Rows are listed by their times of creation and then
by insertion, but the guids of all apps by insertion alone. A transaction that fails is as if it had
never been.
-/
theorem store_refines_relations :
    (∀ events : List (Event ε α),
      Store.empty.replies wrap events = RelationalStore.empty.replies wrap events) ∧
    ∀ (s : Store) (script : Script ε α) (e : ε) (later : List (Event ε α)),
      (s.submit wrap script).1.result = .error e →
      (s.submit wrap script).2.replies wrap later = s.replies wrap later := by
  refine ⟨fun events => RelationalStore.mirrors_empty.replies wrap, ?_⟩
  intro s script e later h
  have hkept : (s.submit wrap script).2 = s := Store.transaction_error h
  rw [hkept]

namespace Sample

def rolling (guid : String) (second : Int) : Deployment :=
  ⟨⟨guid⟩, ⟨"shop"⟩, none, none, .deploying, none, 1, none, ⟨second, 0⟩, ⟨second, 0⟩⟩

/-- Refused at its second operation. -/
def doubled : Script StoreError Unit :=
  .each [.insertDeployment (rolling "one" 3), .insertDeployment (rolling "one" 1)]

def sessions : List (Event StoreError Unit) := [
  .transact (.each [.insertDeployment (rolling "two" 2), .insertDeployment (rolling "three" 2)]),
  .transact doubled,
  .setAvailable false,
  .transact (.each [.deleteDeployment ⟨"two"⟩]),
  .setAvailable true,
  .transact (.each [.deleteDeployment ⟨"two"⟩, .insertDeployment (rolling "two" 2),
    .updateDeployment (rolling "three" 2), .deployments ⟨"shop"⟩, .history ⟨"two"⟩])]

end Sample

theorem store_refines_relations_of_shop :
    (Store.empty.replies id Sample.sessions).length = 4 ∧
    Store.empty.replies id Sample.sessions = RelationalStore.empty.replies id Sample.sessions ∧
    (Store.empty.submit id Sample.doubled).1.result = .error (.duplicate "deployment one") ∧
    (Store.empty.submit id Sample.doubled).2.replies id Sample.sessions =
      Store.empty.replies id Sample.sessions := by
  have hfails : (Store.empty.submit id Sample.doubled).1.result =
      .error (.duplicate "deployment one") := by rfl
  exact ⟨rfl, (store_refines_relations id).1 _, hfails,
    (store_refines_relations id).2 _ _ _ _ hfails⟩

end Rollout
