import Rollout.Proofs.Deploy.Creation
import Rollout.Proofs.Deploy.Sweep
import Rollout.Proofs.Store.Script

/-! Runs: creations, sweeps and transactions one after another, on a store that comes and goes. -/

namespace Rollout

inductive Call where
  | create (draws : CreateDraws) (revisions : RevisionCreator) (app : AppGuid)
      (droplet : Option DropletGuid) (user : UserAuditInfo)
  | prune (app : AppGuid) (limit : Nat)
  | pruneAll (limit : Nat)
  | transact (script : Script StoreError Unit)
  | setAvailable (available : Bool)

inductive Outcome where
  | created (result : Except DeployError Deployment)
  | swept (result : Except StoreError Nat)
  | transacted (result : Except StoreError Unit)
  | switched

structure System (σ : Type) where
  store : Store
  log : σ

variable {σ : Type}

namespace Call

def run (sink : AuditSink σ) (s : System σ) : Call → Outcome × System σ
  | create draws revisions app droplet user =>
    let (result, store, log) :=
      Deployment.create s.store sink s.log draws revisions app droplet user
    (.created result, ⟨store, log⟩)
  | prune app limit =>
    let (result, store) := Deployment.prune s.store app limit
    (.swept result, { s with store })
  | pruneAll limit =>
    let (result, store) := Deployment.pruneAll s.store limit
    (.swept result, { s with store })
  | transact script =>
    let (result, store) := s.store.transaction id script.run
    (.transacted result, { s with store })
  | setAvailable available => (.switched, { s with store := { s.store with available } })

def runAll (sink : AuditSink σ) : System σ → List Call → List Outcome × System σ
  | s, [] => ([], s)
  | s, c :: calls =>
    let (outcome, s) := c.run sink s
    let (outcomes, s) := runAll sink s calls
    (outcome :: outcomes, s)

/-- Transactions call only operations among `P`, and revisions are made as `C` says. -/
def Within (P : Operation → Prop) (C : RevisionCreator → Prop) : Call → Prop
  | create _ revisions _ _ _ => C revisions
  | transact script => script.Calls P
  | _ => True

end Call

def created (outcomes : List Outcome) : List Deployment :=
  outcomes.filterMap fun
    | .created (.ok d) => some d
    | _ => none

lemma created_cons (o : Outcome) (outcomes : List Outcome) :
    created (o :: outcomes) = created [o] ++ created outcomes :=
  List.filterMap_append (l := [o])

lemma mem_created {d : Deployment} {outcomes : List Outcome} :
    d ∈ created outcomes ↔ .created (.ok d) ∈ outcomes := by
  rw [created, List.mem_filterMap]
  constructor
  · rintro ⟨o, ho, he⟩
    split at he
    · cases he
      exact ho
    · cases he
  · exact fun h => ⟨_, h, rfl⟩

namespace Call

section Runs

variable {sink : AuditSink σ} {s : System σ}

lemma run_create {draws : CreateDraws} {revisions : RevisionCreator} {app : AppGuid}
    {droplet : Option DropletGuid} {user : UserAuditInfo} :
    (create draws revisions app droplet user).run sink s =
      let written := Deployment.create s.store sink s.log draws revisions app droplet user
      (.created written.1, ⟨written.2.1, written.2.2⟩) := rfl

lemma run_prune {app : AppGuid} {limit : Nat} :
    (prune app limit).run sink s =
      let pruned := Deployment.prune s.store app limit
      (.swept pruned.1, ⟨pruned.2, s.log⟩) := rfl

lemma runAll_cons {c : Call} {calls : List Call} :
    runAll sink s (c :: calls) =
      let first := c.run sink s
      let rest := runAll sink first.2 calls
      (first.1 :: rest.1, rest.2) := rfl

lemma runAll_append {before after : List Call} :
    runAll sink s (before ++ after) =
      let first := runAll sink s before
      let rest := runAll sink first.2 after
      (first.1 ++ rest.1, rest.2) := by
  induction before generalizing s with
  | nil => rfl
  | cons c before ih => simp only [List.cons_append, runAll_cons, ih]

lemma created_of_run {c : Call} {d : Deployment} (h : (c.run sink s).1 = .created (.ok d)) :
    ∃ draws revisions app droplet user e t, c = create draws revisions app droplet user ∧
      Deployment.createIn draws revisions app droplet user s.store.tables = (.ok (d, e), t) := by
  cases c with
  | create draws revisions app droplet user =>
    rw [run_create] at h
    rcases hc : Deployment.create s.store sink s.log draws revisions app droplet user with
      ⟨result, store, log⟩
    rw [hc] at h
    obtain rfl : result = .ok d := Outcome.created.inj h
    obtain ⟨_, e, t, ht, _⟩ := Deployment.create_ok.mp hc
    exact ⟨draws, revisions, app, droplet, user, e, t, rfl, ht⟩
  | _ => cases h

end Runs

variable {sink : AuditSink σ} {P : Operation → Prop} {C : RevisionCreator → Prop}
variable {J : List Deployment → Tables → Prop}

/-- What each kind of step keeps of the tables and of the deployments created so far. -/
structure Invariant (P : Operation → Prop) (C : RevisionCreator → Prop)
    (J : List Deployment → Tables → Prop) : Prop where
  create : ∀ {draws revisions app droplet user ds d e t t'}, C revisions → J ds t →
    Deployment.createIn draws revisions app droplet user t = (.ok (d, e), t') → J (ds ++ [d]) t'
  prune : ∀ {limit app ds t}, J ds t → J ds (t.without ((t.doomed app limit).map (·.guid)))
  transact : ∀ {ds}, Tables.Lasting P (J ds)

lemma Invariant.step (hJ : Invariant P C J) {c : Call} (hc : c.Within P C) {s : System σ}
    {ds : List Deployment} (hs : J ds s.store.tables) :
    J (ds ++ created [(c.run sink s).1]) (c.run sink s).2.store.tables := by
  cases c with
  | create draws revisions app droplet user =>
    rcases h : Deployment.create s.store sink s.log draws revisions app droplet user with
      ⟨e | d, store, log⟩
    · obtain ⟨rfl, _⟩ := Deployment.create_error h
      simpa only [run, h, created, List.filterMap_cons_none, List.filterMap_nil, List.append_nil]
        using hs
    · obtain ⟨_, e, t, ht, _, rfl⟩ := Deployment.create_ok.mp h
      simp only [run, h]
      exact hJ.create hc hs ht
  | prune app limit =>
    have hp : J ds (Deployment.prune s.store app limit).2.tables :=
      Deployment.prune_keeps (fun t ht => hJ.prune ht) hs
    simpa [created, run] using hp
  | pruneAll limit =>
    have hp : J ds (Deployment.pruneAll s.store limit).2.tables :=
      Deployment.pruneAll_keeps (fun _ t ht => hJ.prune ht) hs
    simpa [created, run] using hp
  | transact script =>
    have ht : J ds (s.store.transaction id script.run).2.tables := by
      refine Store.transaction_keeps hs fun _ t ht => ?_
      have hk := script.run_keeps hJ.transact hc s.store.tables hs
      rwa [ht] at hk
    simpa [created, run] using ht
  | setAvailable available => simpa [created, run] using hs

theorem Invariant.runAll (hJ : Invariant P C J) {calls : List Call}
    (hcalls : ∀ c ∈ calls, c.Within P C) {s : System σ} {ds : List Deployment}
    (hs : J ds s.store.tables) :
    J (ds ++ created (runAll sink s calls).1) (runAll sink s calls).2.store.tables := by
  induction calls generalizing s ds with
  | nil => simpa [Call.runAll, created] using hs
  | cons c calls ih =>
    have hrest : ∀ d ∈ calls, d.Within P C := fun d hd => hcalls d (List.mem_cons_of_mem c hd)
    have hc : J (ds ++ created [(c.run sink s).1]) (c.run sink s).2.store.tables :=
      hJ.step (hcalls c List.mem_cons_self) hs
    have hr := ih hrest hc
    rw [List.append_assoc, ← created_cons] at hr
    exact hr

lemma Invariant.from_empty (hJ : Invariant P C J) {log : σ} {calls : List Call}
    (hcalls : ∀ c ∈ calls, c.Within P C) (he : J [] .empty) :
    J (created (Call.runAll sink ⟨.empty, log⟩ calls).1)
      (Call.runAll sink ⟨.empty, log⟩ calls).2.store.tables := by
  have hs : J [] (⟨.empty, log⟩ : System σ).store.tables := he
  exact hJ.runAll hcalls hs

end Call

namespace Sample

/-- An app with a web process on one route, and a droplet. -/
def opening (app : String) : List Operation := [
  .insertApp ⟨⟨app⟩, app, "space", "organization", none, ⟨0, 0⟩⟩,
  .insertDroplet ⟨⟨app⟩, ⟨app⟩, none, none, ⟨1, 0⟩⟩,
  .insertProcess (.initial ⟨app⟩ ⟨app⟩ .web ⟨2, 0⟩),
  .insertMapping ⟨⟨app⟩, ⟨app⟩, ⟨app⟩, ⟨app⟩, none, ⟨3, 0⟩⟩]

def draws (tag : String) (second : Int) : CreateDraws where
  deploymentGuid := ⟨tag⟩
  time := ⟨second, 0⟩
  processGuid := ⟨tag⟩
  processTime := ⟨second, 1⟩
  mappings := ⟨fun n => ⟨tag ++ String.ofList (List.replicate n '+')⟩, fun _ => ⟨second, 2⟩⟩
  auditTime := ⟨second, 3⟩

section Draws

variable {tag other : String} {second : Int}

lemma tag_prefix_guid (n : Nat) :
    tag.toList <+: ((draws tag second).mappings.guid n).text.toList :=
  ⟨List.replicate n '+', by simp [draws]⟩

lemma draws_injective : Function.Injective (draws tag second).mappings.guid := by
  intro m n h
  have hlist := congrArg (fun g => g.text.toList.length) h
  simpa [draws] using hlist

lemma draws_apart {first : Int} (h : ¬ tag.toList <+: other.toList)
    (h' : ¬ other.toList <+: tag.toList) (m n : Nat) :
    (draws tag first).mappings.guid m ≠ (draws other second).mappings.guid n := by
  intro he
  have hm : tag.toList <+: ((draws tag first).mappings.guid m).text.toList := tag_prefix_guid m
  have hn : other.toList <+: ((draws other second).mappings.guid n).text.toList := tag_prefix_guid n
  rw [he] at hm
  exact (List.prefix_or_prefix_of_prefix hm hn).elim h h'

lemma draws_new {guids : List RouteMappingGuid}
    (h : ∀ g ∈ guids, ¬ tag.toList <+: g.text.toList) (n : Nat) :
    (draws tag second).mappings.guid n ∉ guids :=
  fun hm => h _ hm (tag_prefix_guid n)

end Draws

def rollout (app tag : String) (second : Int) : Call :=
  .create (draws tag second) (Revision.sequential ⟨tag⟩ ⟨second, 0⟩) ⟨app⟩ (some ⟨app⟩)
    ⟨"user", none, none⟩

def busy : List Call := [
  .transact (.each (opening "shop")),
  rollout "shop" "one" 10,
  .prune ⟨"shop"⟩ 0,
  rollout "shop" "two" 20]

def settled : Store := (Call.runAll .memory ⟨.empty, []⟩ busy).2.store

def inFlight (app guid : String) : Deployment :=
  ⟨⟨guid⟩, ⟨app⟩, none, none, .deploying, none, 1, none, ⟨4, 0⟩, ⟨4, 0⟩⟩

def crowded : List Operation :=
  opening "shop" ++
    [.insertDeployment (inFlight "shop" "one"), .insertDeployment (inFlight "shop" "two")]

def relaunch : Except DeployError Deployment × Store × List AuditEvent :=
  Deployment.create ⟨.after crowded, true⟩ .memory [] (draws "next" 30)
    (Revision.sequential ⟨"next"⟩ ⟨30, 0⟩) ⟨"shop"⟩ (some ⟨"shop"⟩) ⟨"user", none, none⟩

def refused : Except DeployError Deployment × Store × Unit :=
  Deployment.create ⟨.after crowded, true⟩ (.refusing "full") () (draws "next" 30)
    (Revision.sequential ⟨"next"⟩ ⟨30, 0⟩) ⟨"shop"⟩ (some ⟨"shop"⟩) ⟨"user", none, none⟩

/-- Of the rollouts the second finds no store and the third no app. -/
def interrupted : List Call := [
  .transact (.each (opening "shop")),
  rollout "shop" "one" 10,
  .setAvailable false,
  rollout "shop" "two" 20,
  .pruneAll 0,
  .setAvailable true,
  rollout "store" "three" 30,
  rollout "shop" "four" 40,
  .prune ⟨"shop"⟩ 0]

def aftermath : List Outcome × System (List AuditEvent) :=
  Call.runAll .memory ⟨.empty, []⟩ interrupted

end Sample

end Rollout
