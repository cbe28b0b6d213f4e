import Rollout.Proofs.Deploy.Slices
import Rollout.Proofs.Run

/-! What is asked about one app does not show in another. -/

namespace Rollout

/-- A creation or a sweep, with the guids and the times that it draws. -/
inductive Request where
  | create (draws : CreateDraws) (revision : RevisionGuid) (revisedAt : Instant) (app : AppGuid)
      (droplet : Option DropletGuid) (user : UserAuditInfo)
  | prune (app : AppGuid) (limit : Nat)

namespace Request

def app : Request → AppGuid
  | create _ _ _ app _ _ => app
  | prune app _ => app

def call : Request → Call
  | create draws revision revisedAt app droplet user =>
    .create draws (Revision.sequential revision revisedAt) app droplet user
  | prune app limit => .prune app limit

/-- The guids of the request occur nowhere in the tables. -/
def Fresh (t : Tables) : Request → Prop
  | create draws revision _ _ _ _ => draws.New t ∧ revision ∉ t.revisions.map (·.guid)
  | prune _ _ => True

def Apart : Request → Request → Prop
  | create d r _ _ _ _, create e s _ _ _ _ =>
    d.deploymentGuid ≠ e.deploymentGuid ∧ d.processGuid ≠ e.processGuid ∧ r ≠ s ∧
      ∀ m n, d.mappings.guid m ≠ e.mappings.guid n
  | _, _ => True

def answers (app : AppGuid) (requests : List Request) (outcomes : List Outcome) : List Outcome :=
  ((requests.zip outcomes).filter (·.1.app = app)).map (·.2)

end Request

/-- Whether the sink takes an event does not depend on the events before. -/
def AuditSink.Oblivious {σ : Type} (sink : AuditSink σ) : Prop :=
  ∀ e a b, (sink e a).1 = (sink e b).1

lemma AuditSink.memory_oblivious : memory.Oblivious := fun _ _ _ => rfl

lemma AuditSink.lines_oblivious : lines.Oblivious := fun _ _ _ => rfl

lemma AuditSink.refusing_oblivious {σ : Type} (reason : String) :
    (refusing reason : AuditSink σ).Oblivious := fun _ _ _ => rfl

variable {σ : Type} {sink : AuditSink σ} {s u : System σ} {app : AppGuid} {r : Request}

lemma Deployment.create_slice {store : Store} {draws : CreateDraws} {revisions : RevisionCreator}
    {droplet : Option DropletGuid} {user : UserAuditInfo} (hsink : sink.Oblivious)
    (h : (createIn draws revisions app droplet user).Local app store.tables) (a b : σ) :
    (create (store.slice app) sink a draws revisions app droplet user).1 =
        (create store sink b draws revisions app droplet user).1 ∧
      (create (store.slice app) sink a draws revisions app droplet user).2.1 =
        (create store sink b draws revisions app droplet user).2.1.slice app := by
  have ht : (store.slice app).transaction .store (createIn draws revisions app droplet user) = _ :=
    Store.transaction_slice h
  rcases hw : store.transaction .store (createIn draws revisions app droplet user) with
    ⟨e | ⟨d, event⟩, written⟩
  · rw [hw] at ht
    simp only [create, ht, hw, and_self]
  · rw [hw] at ht
    have hsame := hsink event a b
    rcases ha : sink event a with ⟨x | x, log⟩ <;> rcases hb : sink event b with ⟨y | y, log'⟩ <;>
      rw [ha, hb] at hsame
    · cases hsame
      simp only [create, ht, hw, ha, hb, and_self]
    · cases hsame
    · cases hsame
    · simp only [create, ht, hw, ha, hb, and_self]

namespace Request

lemma run_own (hsink : sink.Oblivious) (hi : s.store.tables.Intact) (hr : r.Fresh s.store.tables)
    (happ : r.app = app) (hu : u.store = s.store.slice app) :
    (r.call.run sink u).1 = (r.call.run sink s).1 ∧
      (r.call.run sink u).2.store = (r.call.run sink s).2.store.slice app := by
  subst happ
  cases r with
  | create draws revision revisedAt app droplet user =>
    have hlocal : (Deployment.createIn draws (Revision.sequential revision revisedAt) app droplet
        user).Local app s.store.tables := Deployment.createIn_local hi hr.1 hr.2
    obtain ⟨hresult, hstore⟩ := Deployment.create_slice hsink hlocal u.log s.log
    simp only [call, Call.run_create, hu, Request.app, hresult, hstore, and_self]
  | prune app limit =>
    have hlocal : (Deployment.pruneIn app limit).Local app s.store.tables :=
      Deployment.pruneIn_local hi
    have hp : Deployment.prune (s.store.slice app) app limit = _ := Store.transaction_slice hlocal
    simp only [call, Call.run_prune, hu, Request.app, hp]
    exact ⟨rfl, rfl⟩

lemma run_other (hi : s.store.tables.Intact) (hne : r.app ≠ app) :
    (r.call.run sink s).2.store.slice app = s.store.slice app := by
  cases r with
  | create draws revision revisedAt b droplet user =>
    rw [call, Call.run_create]
    refine Store.slice_congr Deployment.create_available ?_
    exact Deployment.create_keeps (I := fun t => t.slice app = s.store.tables.slice app) rfl
      fun _ _ ht => Deployment.createIn_other hi hne ht
  | prune b limit =>
    rw [call, Call.run_prune]
    refine Store.slice_congr Store.transaction_available ?_
    exact Store.transaction_keeps (I := fun t => t.slice app = s.store.tables.slice app) rfl
      fun _ _ ht => Deployment.pruneIn_other hi hne ht

lemma run_intact (hi : s.store.tables.Intact) : (r.call.run sink s).2.store.tables.Intact := by
  cases r with
  | create draws revision revisedAt app droplet user =>
    rw [call, Call.run_create]
    exact Deployment.create_keeps hi fun _ _ ht =>
      Deployment.createIn_intact hi (Revision.sequential_sequential _ _) ht
  | prune app limit =>
    rw [call, Call.run_prune]
    exact Deployment.prune_keeps (fun _ ht => ht.without _) hi

lemma run_fresh {q : Request} (hi : s.store.tables.Intact) (hq : q.Fresh s.store.tables)
    (hrq : r.Apart q) : q.Fresh (r.call.run sink s).2.store.tables := by
  cases q with
  | prune app limit => trivial
  | create other revision revisedAt app droplet user =>
    obtain ⟨hnew, hrev⟩ := hq
    cases r with
    | create draws guid time b c v =>
      obtain ⟨hdeployment, hprocess, hguid, hmappings⟩ := hrq
      rw [call, Call.run_create]
      refine Deployment.create_keeps (I := fun t => Fresh t _) ⟨hnew, hrev⟩ fun x t ht => ?_
      obtain ⟨l, -, -, -, -, -, rfl⟩ := Deployment.createIn_rolledOut hi.deployments ht
      refine ⟨hnew.rolledOut hdeployment hprocess hmappings, ?_⟩
      simpa [Launch.rolledOut, Revision.next, hguid.symm] using hrev
    | prune b limit =>
      rw [call, Call.run_prune]
      exact Deployment.prune_keeps (I := fun t => Fresh t (create _ _ _ _ _ _))
        (fun t ht => ⟨ht.1.without _, ht.2⟩) ⟨hnew, hrev⟩

section Answers

variable {requests : List Request} {outcomes : List Outcome} {o : Outcome}

lemma answers_cons_own (h : r.app = app) :
    answers app (r :: requests) (o :: outcomes) = o :: answers app requests outcomes := by
  simp [answers, h]

lemma answers_cons_other (h : r.app ≠ app) :
    answers app (r :: requests) (o :: outcomes) = answers app requests outcomes := by
  simp [answers, h]

end Answers

/-- The requests about an app, run in its slice, tell what they tell among all the others. -/
lemma runAll_slice (hsink : sink.Oblivious) {requests : List Request}
    (hi : s.store.tables.Intact) (hfresh : ∀ r ∈ requests, r.Fresh s.store.tables)
    (hapart : requests.Pairwise Apart) (hu : u.store = s.store.slice app) :
    answers app requests (Call.runAll sink s (requests.map call)).1 =
        (Call.runAll sink u ((requests.filter (·.app = app)).map call)).1 ∧
      (Call.runAll sink u ((requests.filter (·.app = app)).map call)).2.store =
        (Call.runAll sink s (requests.map call)).2.store.slice app := by
  -- Along both runs the second store stays the slice of the first.
  induction requests generalizing s u with
  | nil => exact ⟨rfl, hu⟩
  | cons r requests ih =>
    obtain ⟨hr, hapart⟩ := List.pairwise_cons.mp hapart
    have hi' : (r.call.run sink s).2.store.tables.Intact := run_intact hi
    have hfresh' : ∀ q ∈ requests, q.Fresh (r.call.run sink s).2.store.tables :=
      fun q hq => run_fresh hi (hfresh q (List.mem_cons_of_mem r hq)) (hr q hq)
    by_cases happ : r.app = app
    · obtain ⟨hout, hstore⟩ := run_own hsink hi (hfresh r List.mem_cons_self) happ hu
      obtain ⟨hrest, hend⟩ := ih hi' hfresh' hapart hstore
      have hkept : (r :: requests).filter (·.app = app) = r :: requests.filter (·.app = app) :=
        List.filter_cons_of_pos (decide_eq_true happ)
      rw [hkept, List.map_cons, List.map_cons, Call.runAll_cons, Call.runAll_cons]
      refine ⟨?_, hend⟩
      rw [answers_cons_own happ, hrest, ← hout]
    · have hstore : u.store = (r.call.run sink s).2.store.slice app :=
        hu.trans (run_other hi happ).symm
      obtain ⟨hrest, hend⟩ := ih hi' hfresh' hapart hstore
      have hleft : (r :: requests).filter (·.app = app) = requests.filter (·.app = app) :=
        List.filter_cons_of_neg (by simpa using happ)
      rw [hleft, List.map_cons, Call.runAll_cons]
      refine ⟨?_, hend⟩
      rw [answers_cons_other happ, hrest]

lemma runAll_length (calls : List Call) : (Call.runAll sink s calls).1.length = calls.length := by
  induction calls generalizing s with
  | nil => rfl
  | cons c calls ih =>
    rw [Call.runAll_cons]
    exact congrArg (· + 1) ih

lemma answers_own {requests : List Request} {outcomes : List Outcome}
    (h : ∀ r ∈ requests, r.app = app) (hl : outcomes.length = requests.length) :
    answers app requests outcomes = outcomes := by
  have hall : (requests.zip outcomes).filter (·.1.app = app) = requests.zip outcomes := by
    rw [List.filter_eq_self]
    intro p hp
    exact decide_eq_true (h _ (List.of_mem_zip hp).1)
  rw [answers, hall]
  exact List.map_snd_zip (Nat.le_of_eq hl)

end Request

/--
What happens to an app is what would happen if the requests about other apps were left out, as long
as each creation draws guids of its own.
-/
theorem requests_separate (sink : AuditSink σ) (hsink : sink.Oblivious) (log : σ) (store : Store)
    (hstore : store.tables.Built) (requests : List Request)
    (hfresh : ∀ r ∈ requests, r.Fresh store.tables) (hapart : requests.Pairwise Request.Apart)
    (app : AppGuid) :
    let all := Call.runAll sink ⟨store, log⟩ (requests.map Request.call)
    let own := Call.runAll sink ⟨store, log⟩ ((requests.filter (·.app = app)).map Request.call)
    Request.answers app requests all.1 = own.1 ∧
      all.2.store.tables.view app = own.2.store.tables.view app := by
  intro all own
  let s : System σ := ⟨store, log⟩
  let u : System σ := ⟨store.slice app, log⟩
  let mine := requests.filter (·.app = app)
  have hmine : ∀ r ∈ mine, r.app = app := fun r hr => of_decide_eq_true (List.mem_filter.mp hr).2
  have hsame : mine.filter (·.app = app) = mine :=
    List.filter_eq_self.mpr fun r hr => decide_eq_true (hmine r hr)
  have hfreshOwn : ∀ r ∈ mine, r.Fresh s.store.tables :=
    fun r hr => hfresh r (List.mem_of_mem_filter hr)
  have hapartOwn : mine.Pairwise Request.Apart := hapart.sublist List.filter_sublist
  have hu : u.store = s.store.slice app := rfl
  obtain ⟨hall, hallStore⟩ := Request.runAll_slice hsink hstore.intact hfresh hapart hu
  obtain ⟨hown, hownStore⟩ := Request.runAll_slice hsink hstore.intact hfreshOwn hapartOwn hu
  rw [hsame] at hown hownStore
  have hanswers : Request.answers app mine own.1 = own.1 := by
    refine Request.answers_own hmine ?_
    rw [Request.runAll_length, List.length_map]
  have hslices : all.2.store.tables.slice app = own.2.store.tables.slice app :=
    congrArg Store.tables (hallStore.symm.trans hownStore)
  refine ⟨hall.trans (hown.symm.trans hanswers), ?_⟩
  rw [← Tables.view_slice, hslices, Tables.view_slice]

namespace Sample

def market : Store := ⟨.after (opening "shop" ++ opening "store"), true⟩

def requested (app tag : String) (second : Int) : Request :=
  .create (draws tag second) ⟨tag⟩ ⟨second, 0⟩ ⟨app⟩ (some ⟨app⟩) ⟨"user", none, none⟩

def traffic : List Request := [
  requested "shop" "one" 10,
  requested "store" "two" 11,
  .prune ⟨"store"⟩ 0,
  requested "shop" "three" 12,
  .prune ⟨"shop"⟩ 1]

variable {tag other : String} {second : Int}

lemma requested_fresh {app : String} (h : ∀ g ∈ ["shop", "store"], ¬ tag.toList <+: g.toList) :
    (requested app tag second).Fresh market.tables := by
  have hdeployments : market.tables.deployments.map (·.guid) = [] := by decide +kernel
  have hrevisions : market.tables.revisions.map (·.guid) = [] := by decide +kernel
  have hprocesses : market.tables.processes.map (·.guid) = [⟨"shop"⟩, ⟨"store"⟩] := by
    decide +kernel
  have hroutes : market.tables.routeMappings.map (·.process) = [⟨"shop"⟩, ⟨"store"⟩] := by
    decide +kernel
  have hmappings : market.tables.routeMappings.map (·.guid) = [⟨"shop"⟩, ⟨"store"⟩] := by
    decide +kernel
  have hshop : ¬ tag.toList <+: "shop".toList := h _ (by simp)
  have hstore : ¬ tag.toList <+: "store".toList := h _ (by simp)
  have htag : (⟨tag⟩ : ProcessGuid) ∉ ([⟨"shop"⟩, ⟨"store"⟩] : List ProcessGuid) := by
    intro hm
    rcases List.mem_pair.mp hm with he | he <;> cases he
    · exact hshop (List.prefix_refl _)
    · exact hstore (List.prefix_refl _)
  refine ⟨⟨?_, ?_, ?_, ?_, draws_injective⟩, ?_⟩
  · simp [hdeployments]
  · exact hprocesses ▸ htag
  · exact hroutes ▸ htag
  · rw [hmappings]
    refine draws_new fun g hg => ?_
    rcases List.mem_pair.mp hg with rfl | rfl
    · exact hshop
    · exact hstore
  · simp [hrevisions]

lemma traffic_fresh : ∀ r ∈ traffic, r.Fresh market.tables := by
  simp only [traffic, List.forall_mem_cons]
  refine ⟨requested_fresh (by decide), requested_fresh (by decide), trivial,
    requested_fresh (by decide), trivial, ?_⟩
  simp

lemma requested_apart {app app' : String} {first : Int} (h : ¬ tag.toList <+: other.toList)
    (h' : ¬ other.toList <+: tag.toList) :
    (requested app tag first).Apart (requested app' other second) := by
  have hne : tag ≠ other := fun he => h (he ▸ List.prefix_refl _)
  refine ⟨?_, ?_, ?_, draws_apart h h'⟩ <;> simpa [draws] using hne

lemma traffic_apart : traffic.Pairwise Request.Apart := by
  have h₁ : ∀ {app app' : String} {m n : Int},
      (requested app "one" m).Apart (requested app' "two" n) :=
    requested_apart (by decide) (by decide)
  have h₂ : ∀ {app app' : String} {m n : Int},
      (requested app "one" m).Apart (requested app' "three" n) :=
    requested_apart (by decide) (by decide)
  have h₃ : ∀ {app app' : String} {m n : Int},
      (requested app "two" m).Apart (requested app' "three" n) :=
    requested_apart (by decide) (by decide)
  simp only [traffic, List.pairwise_cons, List.forall_mem_cons]
  exact ⟨⟨h₁, trivial, h₂, trivial, by simp⟩, ⟨trivial, h₃, trivial, by simp⟩,
    ⟨trivial, trivial, by simp⟩, ⟨trivial, by simp⟩, by simp, .nil⟩

end Sample

theorem requests_separate_of_shop :
    Sample.market.tables.Built ∧ (∀ r ∈ Sample.traffic, r.Fresh Sample.market.tables) ∧
    Sample.traffic.Pairwise Request.Apart ∧
    (created (Call.runAll .memory ⟨Sample.market, []⟩ (Sample.traffic.map Request.call)).1).length =
      3 ∧
    Request.answers ⟨"shop"⟩ Sample.traffic
        (Call.runAll .memory ⟨Sample.market, []⟩ (Sample.traffic.map Request.call)).1 =
      (Call.runAll .memory ⟨Sample.market, []⟩
        ((Sample.traffic.filter (·.app = ⟨"shop"⟩)).map Request.call)).1 := by
  have hbuilt : Sample.market.tables.Built := Tables.built_after _
  have h := requests_separate .memory AuditSink.memory_oblivious [] Sample.market hbuilt
    Sample.traffic Sample.traffic_fresh Sample.traffic_apart ⟨"shop"⟩
  exact ⟨hbuilt, Sample.traffic_fresh, Sample.traffic_apart, by decide +kernel, h.1⟩

end Rollout
