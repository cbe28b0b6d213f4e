import Rollout.Proofs.Store.Integrity
import Rollout.Proofs.Store.Seniority

/-! What the listings of a table are, and which operations move them. -/

namespace Rollout

section Order

variable {α : Type} {createdAt : α → Instant} {a row old : α}
variable {rows listing other before after : List α}

structure ByCreation (createdAt : α → Instant) (rows listing : List α) : Prop where
  perm : listing.Perm rows
  ordered : listing.Pairwise fun a b => createdAt a ≤ createdAt b
  ties : ∀ time, listing.filter (createdAt · = time) = rows.filter (createdAt · = time)

lemma sortByCreation_of_tied {time : Instant} (h : ∀ r ∈ rows, createdAt r = time) :
    sortByCreation createdAt rows = rows := by
  induction rows with
  | nil => rfl
  | cons r rows ih =>
    rw [List.forall_mem_cons] at h
    rw [sortByCreation, ih h.2]
    apply placeByCreation_of_le
    intro s hs
    rw [h.1, h.2 s hs]
    exact Instant.le_refl time

lemma byCreation_sortByCreation (rows : List α) :
    ByCreation createdAt rows (sortByCreation createdAt rows) where
  perm := sortByCreation_perm rows
  ordered := (sortByCreation_precedes rows).imp And.left
  ties time := by
    rw [sortByCreation_filter]
    have htied : ∀ r ∈ rows.filter (createdAt · = time), createdAt r = time :=
      fun r hr => of_decide_eq_true (List.mem_filter.mp hr).2
    exact sortByCreation_of_tied htied

lemma filter_tail {q : α → Bool} (h : (a :: listing).filter q = (a :: other).filter q) :
    listing.filter q = other.filter q := by
  rw [List.filter_cons, List.filter_cons] at h
  split at h
  · exact (List.cons.inj h).2
  · exact h

lemma head_le (hperm : (a :: listing).Perm (old :: other))
    (h : ∀ r ∈ listing, createdAt a ≤ createdAt r) :
    createdAt a ≤ createdAt old := by
  rcases List.mem_cons.mp (hperm.mem_iff.mpr List.mem_cons_self) with he | hm
  · exact he ▸ Instant.le_refl _
  · exact h old hm

lemma eq_of_ties (hperm : listing.Perm other)
    (h : listing.Pairwise fun a b => createdAt a ≤ createdAt b)
    (h' : other.Pairwise fun a b => createdAt a ≤ createdAt b)
    (hties : ∀ time, listing.filter (createdAt · = time) = other.filter (createdAt · = time)) :
    listing = other := by
  induction listing generalizing other with
  | nil => exact hperm.nil_eq
  | cons a listing ih =>
    cases other with
    | nil => exact hperm.eq_nil
    | cons b other =>
      obtain ⟨ha, hlisting⟩ := List.pairwise_cons.mp h
      obtain ⟨hb, hother⟩ := List.pairwise_cons.mp h'
      -- Each head is no younger than the other, so that both are the first of their one time.
      have htime : createdAt a = createdAt b :=
        Instant.le_antisymm (head_le hperm ha) (head_le hperm.symm hb)
      have hfirst := hties (createdAt b)
      simp only [List.filter_cons, htime, decide_true, if_true] at hfirst
      obtain rfl : a = b := (List.cons.inj hfirst).1
      rw [ih hperm.cons_inv hlisting hother fun time => filter_tail (hties time)]

lemma byCreation_iff :
    ByCreation createdAt rows listing ↔ sortByCreation createdAt rows = listing := by
  constructor
  · intro h
    have hs : ByCreation createdAt rows (sortByCreation createdAt rows) :=
      byCreation_sortByCreation rows
    exact eq_of_ties (hs.perm.trans h.perm.symm) hs.ordered h.ordered
      fun time => (hs.ties time).trans (h.ties time).symm
  · rintro rfl
    exact byCreation_sortByCreation rows

/-- One list has `a` where the other has `b`, and they are the same elsewhere. -/
def Swapped (a b : α) (listing other : List α) : Prop :=
  ∃ before after, listing = before ++ a :: after ∧ other = before ++ b :: after

lemma Swapped.cons (h : Swapped old row listing other) (a : α) :
    Swapped old row (a :: listing) (a :: other) := by
  obtain ⟨before, after, rfl, rfl⟩ := h
  exact ⟨a :: before, after, rfl, rfl⟩

lemma swapped_place (h : createdAt row = createdAt old) (rows : List α) :
    Swapped old row (placeByCreation createdAt old rows) (placeByCreation createdAt row rows) := by
  induction rows with
  | nil => exact ⟨[], [], rfl, rfl⟩
  | cons r rows ih =>
    rw [placeByCreation, placeByCreation, h]
    split
    · exact ⟨[], r :: rows, rfl, rfl⟩
    · exact ih.cons r

lemma Swapped.place (h : createdAt row = createdAt old) (a : α)
    (hs : Swapped old row listing other) :
    Swapped old row (placeByCreation createdAt a listing) (placeByCreation createdAt a other) := by
  obtain ⟨before, after, rfl, rfl⟩ := hs
  induction before with
  | nil =>
    rw [List.nil_append, List.nil_append, placeByCreation, placeByCreation, h]
    split
    · exact ⟨[a], after, rfl, rfl⟩
    · exact ⟨[], placeByCreation createdAt a after, rfl, rfl⟩
  | cons r before ih =>
    rw [List.cons_append, List.cons_append, placeByCreation, placeByCreation]
    split
    · exact ⟨a :: r :: before, after, rfl, rfl⟩
    · exact ih.cons r

lemma swapped_sort (h : createdAt row = createdAt old) (hs : Swapped old row rows other) :
    Swapped old row (sortByCreation createdAt rows) (sortByCreation createdAt other) := by
  obtain ⟨before, after, rfl, rfl⟩ := hs
  induction before with
  | nil => exact swapped_place h (sortByCreation createdAt after)
  | cons r before ih => exact ih.place h r

lemma Swapped.filter {p : α → Bool} (hold : p old = true) (hrow : p row = true)
    (h : Swapped old row rows other) : Swapped old row (rows.filter p) (other.filter p) := by
  obtain ⟨before, after, rfl, rfl⟩ := h
  refine ⟨before.filter p, after.filter p, ?_, ?_⟩
  · rw [List.filter_append, List.filter_cons_of_pos hold]
  · rw [List.filter_append, List.filter_cons_of_pos hrow]

lemma filter_eq_of_swapped {p : α → Bool} (hold : p old = false) (hrow : p row = false)
    (h : Swapped old row rows other) : other.filter p = rows.filter p := by
  obtain ⟨before, after, rfl, rfl⟩ := h
  simp [hold, hrow]

lemma swapped_replaceFirst {p : α → Bool} (h : rows.find? p = some old) :
    Swapped old row rows (replaceFirst p row rows) := by
  induction rows with
  | nil => cases h
  | cons r rows ih =>
    rw [List.find?_cons] at h
    rw [replaceFirst]
    split at h
    · next hr =>
      obtain rfl := Option.some.inj h
      rw [if_pos hr]
      exact ⟨[], rows, rfl, rfl⟩
    · next hr =>
      rw [if_neg (Bool.eq_false_iff.mp hr)]
      exact (ih h).cons r

/-- A row is inserted behind all others, and no operation moves a row that it leaves. -/
inductive Advance (rows : List α) : List α → Prop
  | kept : Advance rows rows
  | inserted (row : α) : Advance rows (rows ++ [row])
  | updated {old row : α} {others : List α} : Swapped old row rows others → Advance rows others
  | deleted {q : α → Bool} : Advance rows (rows.filter q)

end Order

structure Tables.Advances (t u : Tables) : Prop where
  revisions : Advance t.revisions u.revisions
  processes : Advance t.processes u.processes
  routeMappings : Advance t.routeMappings u.routeMappings
  deployments : Advance t.deployments u.deployments

inductive Listing where
  | revisions (app : AppGuid)
  | processes (app : AppGuid)
  | mappings (process : ProcessGuid)
  | deployments (app : AppGuid)

namespace Listing

def query : Listing → Operation
  | revisions app => .revisions app
  | processes app => .processes app
  | mappings process => .mappings process
  | deployments app => .deployments app

/-- A row of the listing's own key is put in, replaced or taken out. -/
def MovedBy (t : Tables) : Operation → Listing → Prop
  | .insertRevision row, revisions app => row.app = app
  | .insertProcess row, processes app => row.app = app
  | .insertMapping row, mappings process => row.process = process
  | .insertDeployment row, deployments app => row.app = app
  | .updateDeployment row, deployments app =>
    ∃ old, t.deployment? row.guid = some old ∧ (old.app = app ∨ row.app = app)
  | .deleteDeployment guid, deployments app =>
    ∃ d ∈ t.deployments, d.guid = guid ∧ d.app = app
  | _, _ => False

def Unmoved (l : Listing) : Tables → List Operation → Prop
  | _, [] => True
  | t, op :: ops => ¬ l.MovedBy t op ∧ l.Unmoved (op.run t).2 ops

end Listing

def Operation.runEach : List Operation → Tables → Tables
  | [], t => t
  | op :: ops, t => runEach ops (op.run t).2

section Changes

variable {t u : Tables} {l : Listing} {op : Operation}

lemma filter_append_of_not {α : Type} {p : α → Bool} {rows : List α} {row : α} (h : p row = false) :
    (rows ++ [row]).filter p = rows.filter p := by
  rw [List.filter_append, List.filter_cons_of_neg (Bool.eq_false_iff.mp h), List.filter_nil,
    List.append_nil]

lemma updateDeployment_swaps {row old : Deployment} (h : t.deployment? row.guid = some old) :
    ∃ deployments, Swapped old row t.deployments deployments ∧
      t.updateDeployment row = .ok { t with deployments } := by
  obtain ⟨hold, hguid⟩ := of_find_key h
  exact ⟨_, swapped_replaceFirst h,
    Tables.updateDeployment_ok.mpr ⟨hguid ▸ List.mem_map_of_mem hold, rfl⟩⟩

lemma exists_swapped {row : Deployment} (he : t.updateDeployment row = .ok u) :
    ∃ old deployments, t.deployment? row.guid = some old ∧
      Swapped old row t.deployments deployments ∧ u = { t with deployments } := by
  obtain ⟨hmem, -⟩ := Tables.updateDeployment_ok.mp he
  obtain ⟨old, hfound⟩ :=
    Option.isSome_iff_exists.mp (List.isSome_find?.trans (any_key_iff.mpr hmem))
  obtain ⟨deployments, hswapped, hu⟩ := updateDeployment_swaps hfound
  exact ⟨old, deployments, hfound, hswapped, Except.ok.inj (he.symm.trans hu)⟩

lemma deploymentsOf_update {app : AppGuid} {row : Deployment} (he : t.updateDeployment row = .ok u)
    (h : ∀ old, t.deployment? row.guid = some old → old.app ≠ app ∧ row.app ≠ app) :
    u.deploymentsOf app = t.deploymentsOf app := by
  obtain ⟨old, deployments, hfound, hswapped, rfl⟩ := exists_swapped he
  obtain ⟨hold, hrow⟩ := h old hfound
  have hsame : deployments.filter (·.app = app) = t.deployments.filter (·.app = app) :=
    filter_eq_of_swapped (decide_eq_false hold) (decide_eq_false hrow) hswapped
  simp only [Tables.deploymentsOf, hsame]

lemma deploymentsOf_delete {app : AppGuid} {guid : DeploymentGuid}
    (h : ∀ d ∈ t.deployments, d.guid = guid → d.app ≠ app) :
    (t.deployments.filter (·.guid ≠ guid)).filter (·.app = app) =
      t.deployments.filter (·.app = app) :=
  filter_filter_of_imp fun d hd happ =>
    decide_eq_true fun hguid => h d hd hguid (of_decide_eq_true happ)

lemma answer_of_effect (he : op.effect t = .ok u) (h : ¬ l.MovedBy t op) :
    l.query.answer u = l.query.answer t := by
  cases op with
  | insertApp row =>
    obtain ⟨-, rfl⟩ := Tables.insertApp_ok.mp he
    cases l <;> rfl
  | updateApp row =>
    obtain ⟨-, rfl⟩ := Tables.updateApp_ok.mp he
    cases l <;> rfl
  | insertDroplet row =>
    obtain ⟨-, rfl⟩ := Tables.insertDroplet_ok.mp he
    cases l <;> rfl
  | insertRevision row =>
    obtain ⟨-, rfl⟩ := Tables.insertRevision_ok.mp he
    cases l with
    | revisions app =>
      simp only [Listing.query, Operation.answer, Tables.revisionsOf,
        filter_append_of_not (p := fun r : Revision => r.app = app) (decide_eq_false h)]
    | _ => rfl
  | insertProcess row =>
    obtain ⟨-, rfl⟩ := Tables.insertProcess_ok.mp he
    cases l with
    | processes app =>
      simp only [Listing.query, Operation.answer, Tables.processesOf,
        filter_append_of_not (p := fun p : AppProcess => p.app = app) (decide_eq_false h)]
    | _ => rfl
  | insertMapping row =>
    obtain ⟨-, -, rfl⟩ := Tables.insertMapping_ok.mp he
    cases l with
    | mappings process =>
      simp only [Listing.query, Operation.answer, Tables.mappingsOf,
        filter_append_of_not (p := fun m : RouteMapping => m.process = process) (decide_eq_false h)]
    | _ => rfl
  | insertDeployment row =>
    obtain ⟨-, rfl⟩ := Tables.insertDeployment_ok.mp he
    cases l with
    | deployments app =>
      simp only [Listing.query, Operation.answer, Tables.deploymentsOf,
        filter_append_of_not (p := fun d : Deployment => d.app = app) (decide_eq_false h)]
    | _ => rfl
  | updateDeployment row =>
    cases l with
    | deployments app =>
      have hsame : u.deploymentsOf app = t.deploymentsOf app :=
        deploymentsOf_update he fun old hold => not_or.mp fun happ => h ⟨old, hold, happ⟩
      simp only [Listing.query, Operation.answer, hsame]
    | _ =>
      obtain ⟨-, rfl⟩ := Tables.updateDeployment_ok.mp he
      rfl
  | deleteDeployment guid =>
    obtain ⟨-, rfl⟩ := Tables.deleteDeployment_ok.mp he
    cases l with
    | deployments app =>
      have hsame := deploymentsOf_delete fun d hd hguid happ => h ⟨d, hd, hguid, happ⟩
      simp only [Listing.query, Operation.answer, Tables.deploymentsOf, hsame]
    | _ => rfl
  | insertHistory row =>
    obtain ⟨-, rfl⟩ := Tables.insertHistory_ok.mp he
    cases l <;> rfl
  | _ =>
    obtain rfl := Except.ok.inj he
    rfl

lemma advances_of_effect (he : op.effect t = .ok u) : t.Advances u := by
  cases op with
  | insertApp row =>
    obtain ⟨-, rfl⟩ := Tables.insertApp_ok.mp he
    exact ⟨.kept, .kept, .kept, .kept⟩
  | updateApp row =>
    obtain ⟨-, rfl⟩ := Tables.updateApp_ok.mp he
    exact ⟨.kept, .kept, .kept, .kept⟩
  | insertDroplet row =>
    obtain ⟨-, rfl⟩ := Tables.insertDroplet_ok.mp he
    exact ⟨.kept, .kept, .kept, .kept⟩
  | insertRevision row =>
    obtain ⟨-, rfl⟩ := Tables.insertRevision_ok.mp he
    exact ⟨.inserted row, .kept, .kept, .kept⟩
  | insertProcess row =>
    obtain ⟨-, rfl⟩ := Tables.insertProcess_ok.mp he
    exact ⟨.kept, .inserted row, .kept, .kept⟩
  | insertMapping row =>
    obtain ⟨-, -, rfl⟩ := Tables.insertMapping_ok.mp he
    exact ⟨.kept, .kept, .inserted row, .kept⟩
  | insertDeployment row =>
    obtain ⟨-, rfl⟩ := Tables.insertDeployment_ok.mp he
    exact ⟨.kept, .kept, .kept, .inserted row⟩
  | updateDeployment row =>
    obtain ⟨old, deployments, -, hswapped, rfl⟩ := exists_swapped he
    exact ⟨.kept, .kept, .kept, .updated hswapped⟩
  | deleteDeployment guid =>
    obtain ⟨-, rfl⟩ := Tables.deleteDeployment_ok.mp he
    exact ⟨.kept, .kept, .kept, .deleted⟩
  | insertHistory row =>
    obtain ⟨-, rfl⟩ := Tables.insertHistory_ok.mp he
    exact ⟨.kept, .kept, .kept, .kept⟩
  | _ =>
    obtain rfl := Except.ok.inj he
    exact ⟨.kept, .kept, .kept, .kept⟩

lemma run_advances (op : Operation) (t : Tables) : t.Advances (op.run t).2 := by
  rw [op.run_snd]
  split
  · next u he => exact advances_of_effect he
  · exact ⟨.kept, .kept, .kept, .kept⟩

lemma Listing.run_query (l : Listing) (t : Tables) : (l.query.run t).1 = l.query.answer t := by
  rw [Operation.run_eq]
  cases l <;> rfl

lemma Listing.run_unmoved (h : ¬ l.MovedBy t op) :
    (l.query.run (op.run t).2).1 = (l.query.run t).1 := by
  rw [run_query, run_query, op.run_snd]
  split
  · next u he => exact answer_of_effect he h
  · rfl

lemma Listing.runEach_unmoved {ops : List Operation} (h : l.Unmoved t ops) :
    (l.query.run (Operation.runEach ops t)).1 = (l.query.run t).1 := by
  induction ops generalizing t with
  | nil => rfl
  | cons op ops ih => exact (ih h.2).trans (run_unmoved h.1)

lemma deploymentsOf_swapped {row old : Deployment} (hfound : t.deployment? row.guid = some old)
    (happ : row.app = old.app) (htime : row.createdAt = old.createdAt) :
    ∃ u, t.updateDeployment row = .ok u ∧
      Swapped old row (t.deploymentsOf old.app) (u.deploymentsOf old.app) := by
  obtain ⟨deployments, hswapped, hu⟩ := updateDeployment_swaps hfound
  exact ⟨_, hu, swapped_sort htime
    (hswapped.filter (decide_eq_true rfl) (decide_eq_true happ))⟩

end Changes

/--
A listing is its rows by creation, and of one time as they stand in the table, where they are in the
order of their insertion; this leaves one list only. Rows of other keys come and go without moving
it, and a deployment that keeps its app and its time is replaced where it stands.
-/
theorem listings_stable (t : Tables) :
    (∀ app listing, t.revisionsOf app = listing ↔
      ByCreation (·.createdAt) (t.revisions.filter (·.app = app)) listing) ∧
    (∀ app listing, t.processesOf app = listing ↔
      ByCreation (·.createdAt) (t.processes.filter (·.app = app)) listing) ∧
    (∀ process listing, t.mappingsOf process = listing ↔
      ByCreation (·.createdAt) (t.routeMappings.filter (·.process = process)) listing) ∧
    (∀ app listing, t.deploymentsOf app = listing ↔
      ByCreation (·.createdAt) (t.deployments.filter (·.app = app)) listing) ∧
    (∀ op : Operation, t.Advances (op.run t).2) ∧
    (∀ (l : Listing) (ops : List Operation), l.Unmoved t ops →
      (l.query.run (Operation.runEach ops t)).1 = (l.query.run t).1) ∧
    ∀ row old : Deployment, t.deployment? row.guid = some old → row.app = old.app →
      row.createdAt = old.createdAt → ∃ u, t.updateDeployment row = .ok u ∧
        Swapped old row (t.deploymentsOf old.app) (u.deploymentsOf old.app) :=
  ⟨fun _ _ => byCreation_iff.symm, fun _ _ => byCreation_iff.symm, fun _ _ => byCreation_iff.symm,
    fun _ _ => byCreation_iff.symm, fun op => run_advances op t,
    fun _ _ => Listing.runEach_unmoved,
    fun _ _ => deploymentsOf_swapped⟩

namespace Sample

def begun (guid app : String) (second : Int) (state : DeploymentState) : Deployment :=
  ⟨⟨guid⟩, ⟨app⟩, none, none, state, none, 1, none, ⟨second, 0⟩, ⟨second, 0⟩⟩

/-- The first two deployments of the shop began at the same time, after its third. -/
def begunTables : Tables := { Tables.empty with
  deployments := [begun "one" "shop" 2 .deployed, begun "two" "shop" 2 .deploying,
    begun "three" "shop" 1 .canceled, begun "four" "mill" 2 .deploying] }

def foreign : List Operation := [
  .insertDeployment (begun "five" "mill" 1 .deploying),
  .updateDeployment (begun "four" "mill" 0 .deployed),
  .deleteDeployment ⟨"five"⟩]

end Sample

theorem listings_stable_of_shop :
    let t := Sample.begunTables
    let shop := Listing.deployments ⟨"shop"⟩
    t.deploymentsOf ⟨"shop"⟩ = [Sample.begun "three" "shop" 1 .canceled,
      Sample.begun "one" "shop" 2 .deployed, Sample.begun "two" "shop" 2 .deploying] ∧
    shop.Unmoved t Sample.foreign ∧
    (shop.query.run (Operation.runEach Sample.foreign t)).1 = (shop.query.run t).1 ∧
    t.deployment? ⟨"one"⟩ = some (Sample.begun "one" "shop" 2 .deployed) ∧
    ∃ u, t.updateDeployment (Sample.begun "one" "shop" 2 .canceling) = .ok u ∧
      Swapped (Sample.begun "one" "shop" 2 .deployed) (Sample.begun "one" "shop" 2 .canceling)
        (t.deploymentsOf ⟨"shop"⟩) (u.deploymentsOf ⟨"shop"⟩) := by
  intro t shop
  have hunmoved : shop.Unmoved t Sample.foreign := by
    refine ⟨?_, ?_, ?_, trivial⟩
    · exact fun h => absurd (Guid.mk.inj h) (by decide)
    · rintro ⟨old, hold, h⟩
      cases hold
      exact absurd h (by decide)
    · rintro ⟨d, hd, hguid, happ⟩
      revert d
      decide
  have hfound : t.deployment? ⟨"one"⟩ = some (Sample.begun "one" "shop" 2 .deployed) := by decide
  obtain ⟨-, -, -, -, -, hlisted, hreplaced⟩ := listings_stable t
  exact ⟨by decide, hunmoved, hlisted shop _ hunmoved, hfound,
    hreplaced (Sample.begun "one" "shop" 2 .canceling) _ hfound rfl rfl⟩

end Rollout
