import Rollout.Proofs.Deploy.Linkage

/-! The revisions of an app are numbered from one on, in the order of its rollouts. -/

namespace Rollout

namespace Revision

def ref (r : Revision) : RevisionRef := ⟨r.guid, r.version⟩

lemma latest_toNat (rows : List Revision) :
    (latest rows).toNat = (rows.map (·.version.toNat)).max?.getD 0 := by
  have hfold : ∀ n : UInt32,
      (rows.foldl (fun n r => if n < r.version then r.version else n) n).toNat =
        (rows.map (·.version.toNat)).foldl max n.toNat := by
    induction rows with
    | nil => exact fun _ => rfl
    | cons r rows ih =>
      intro n
      rw [List.foldl_cons, ih, List.map_cons, List.foldl_cons]
      congr 1
      split
      · next h => exact (Nat.max_eq_right (Nat.le_of_lt (UInt32.lt_iff_toNat_lt.mp h))).symm
      · next h => exact (Nat.max_eq_left (UInt32.not_lt.mp h)).symm
  rw [latest, hfold, List.foldl_max]
  exact Nat.zero_max _

end Revision

namespace Tables

def versionsOf (t : Tables) (app : AppGuid) : List Nat :=
  (t.revisions.filter (·.app = app)).map (·.version.toNat)

/-- The greatest version that is stored for the app, or 0. -/
def greatest (t : Tables) (app : AppGuid) : Nat := (t.versionsOf app).max?.getD 0

variable {t t' : Tables} {app a : AppGuid} {r : Revision}

lemma latest_revisionsOf : (Revision.latest (t.revisionsOf app)).toNat = t.greatest app := by
  have hsorted : (t.revisionsOf app).Perm (t.revisions.filter (·.app = app)) :=
    sortByCreation_perm _
  have hversions := (hsorted.map (·.version.toNat)).foldl_eq (f := max) 0
  simp only [List.foldl_max, Nat.zero_max] at hversions
  rw [Revision.latest_toNat, hversions]
  rfl

lemma versionsOf_append (h : t'.revisions = t.revisions ++ [r]) :
    t'.versionsOf a = if r.app = a then t.versionsOf a ++ [r.version.toNat] else t.versionsOf a := by
  unfold versionsOf
  rw [h, List.filter_append, List.map_append]
  split
  · next ha => simp [ha]
  · next ha => simp [ha]

lemma greatest_range {n : Nat} (h : t.versionsOf app = List.range' 1 n) : t.greatest app = n := by
  have hmax : ∀ n, (List.range' 1 n).foldl max 0 = n := by
    intro n
    induction n with
    | zero => rfl
    | succ n ih =>
      rw [List.range'_1_concat, List.foldl_append, ih, Nat.add_comm 1 n]
      exact Nat.max_eq_right (Nat.le_add_right n 1)
  have hn := hmax n
  rw [List.foldl_max, Nat.zero_max] at hn
  rw [greatest, h, hn]

end Tables

namespace Deployment

variable {t t' : Tables} {draws : CreateDraws} {revisions : RevisionCreator} {app : AppGuid}
variable {droplet : Option DropletGuid} {user : UserAuditInfo} {d : Deployment} {e : AuditEvent}

lemma createIn_revision (hs : revisions.Sequential)
    (h : createIn draws revisions app droplet user t = (.ok (d, e), t')) :
    ∃ r, t'.revisions = t.revisions ++ [r] ∧ r.app = app ∧ d.revision = some r.ref ∧
      (t.greatest app + 1 < UInt32.size → r.version.toNat = t.greatest app + 1) := by
  obtain ⟨l, r, u, hl, hr, hd, -, -, -, ht⟩ := createIn_ok h
  obtain ⟨guid, time, hr⟩ := hs hr
  obtain ⟨-, hnext, hu⟩ := Revision.sequential_ok.mp hr
  have happ : l.app.guid = app := (Tables.app_of_launch? hl).2
  have hversion : r.version = Revision.latest (t.revisionsOf app) + 1 := by
    rw [hnext, ← happ]
    rfl
  dsimp only at hd
  refine ⟨r, ?_, ?_, ?_, fun hlt => ?_⟩
  · rw [ht, hu]
    rfl
  · rw [hnext]
    exact happ
  · rw [hd]
    rfl
  · rw [hversion, UInt32.toNat_add, Tables.latest_revisionsOf]
    exact Nat.mod_eq_of_lt hlt

end Deployment

namespace Tables

/-- The revisions of an app are those of its rollouts, numbered from one on while numbers last. -/
structure Versioned (ds : List Deployment) (t : Tables) : Prop where
  named : ∀ app, (Deployment.sequence ds app).map (·.revision) =
    (t.revisions.filter (·.app = app)).map fun r => some r.ref
  counted : ∀ app, (Deployment.sequence ds app).length < UInt32.size →
    t.versionsOf app = List.range' 1 (Deployment.sequence ds app).length

variable {ds : List Deployment} {t t' : Tables} {d : Deployment}

lemma versioned_nil (h : t.revisions = []) : t.Versioned [] := by
  constructor <;> simp [h, Deployment.sequence, versionsOf]

lemma Versioned.congr (h : t.Versioned ds) (he : t'.revisions = t.revisions) : t'.Versioned ds where
  named := fun app => he ▸ h.named app
  counted := fun app hlt => by
    rw [versionsOf, he]
    exact h.counted app hlt

lemma Versioned.append (h : t.Versioned ds) {r : Revision}
    (ht : t'.revisions = t.revisions ++ [r]) (happ : r.app = d.app) (hd : d.revision = some r.ref)
    (hr : t.greatest d.app + 1 < UInt32.size → r.version.toNat = t.greatest d.app + 1) :
    t'.Versioned (ds ++ [d]) where
  named := by
    intro app
    rw [ht, List.filter_append]
    by_cases ha : d.app = app
    · rw [Deployment.sequence_concat_own ha, List.map_append, h.named]
      simp [happ, ha, hd]
    · rw [Deployment.sequence_concat_other ha, h.named]
      simp [happ, ha]
  counted := by
    intro app hlt
    rw [versionsOf_append ht, happ]
    by_cases ha : d.app = app
    · subst ha
      rw [Deployment.sequence_concat_own rfl, List.length_append, List.length_singleton] at hlt ⊢
      -- The versions in use are those from one to the number of rollouts.
      have hold := h.counted d.app (Nat.lt_of_succ_lt hlt)
      rw [greatest_range hold] at hr
      rw [if_pos rfl, hold, hr hlt, List.range'_1_concat, Nat.add_comm 1]
    · rw [Deployment.sequence_concat_other ha] at hlt ⊢
      rw [if_neg ha]
      exact h.counted app hlt

lemma Versioned.stored (h : t.Versioned ds) {app : AppGuid}
    (hd : d ∈ Deployment.sequence ds app) :
    ∃ r ∈ t.revisions, r.app = app ∧ d.revision = some r.ref := by
  have hm := List.mem_map_of_mem (f := (·.revision)) hd
  rw [h.named] at hm
  obtain ⟨r, hr, he⟩ := List.mem_map.mp hm
  obtain ⟨hr, ha⟩ := List.mem_filter.mp hr
  exact ⟨r, hr, of_decide_eq_true ha, he.symm⟩

lemma Versioned.versions (h : t.Versioned ds) (app : AppGuid) :
    (Deployment.sequence ds app).map (fun d => d.revision.map (·.version.toNat)) =
      (t.versionsOf app).map some := by
  have hn := congrArg (List.map (Option.map (·.version.toNat))) (h.named app)
  rw [List.map_map, List.map_map] at hn
  rw [versionsOf, List.map_map]
  exact hn

end Tables

namespace Call

lemma versioned_invariant :
    Invariant Operation.Supplies RevisionCreator.Sequential (fun ds t => t.Versioned ds) where
  create := by
    intro draws revisions app droplet user ds d e t t' hs h hc
    obtain ⟨r, ht, happ, hd, hr⟩ := Deployment.createIn_revision hs hc
    obtain rfl : d.app = app := Deployment.createIn_app hc
    exact h.append ht happ hd hr
  prune := fun h => h.congr rfl
  transact := fun _ _ _ hop h he => h.congr (Tables.Supplied.of_effect hop he).revisions

end Call

section Main

variable {σ : Type}

/--
The rollouts of an app are numbered from one on in the order of their creation, whatever fails or is
swept in between. From any state the next number is that after the greatest of the app.
-/
theorem revisions_numbered (sink : AuditSink σ) :
    (∀ (s : System σ) (calls : List Call), s.store.tables.revisions = [] →
      (∀ c ∈ calls, c.Within Operation.Supplies RevisionCreator.Sequential) →
      ∀ app,
        let ds := Deployment.sequence (created (Call.runAll sink s calls).1) app
        let t := (Call.runAll sink s calls).2.store.tables
        (∀ d ∈ ds, ∃ r ∈ t.revisions, r.app = app ∧ d.revision = some r.ref) ∧
          (ds.length < UInt32.size →
            ds.map (fun d => d.revision.map (·.version.toNat)) =
                (List.range' 1 ds.length).map some ∧
              (ds.map fun d => d.revision.map (·.version)).Nodup ∧
              t.versionsOf app = List.range' 1 ds.length)) ∧
    ∀ (store store' : Store) (log log' : σ) (draws : CreateDraws) (revisions : RevisionCreator)
      (app : AppGuid) (droplet : Option DropletGuid) (user : UserAuditInfo) (d : Deployment),
      revisions.Sequential →
      Deployment.create store sink log draws revisions app droplet user = (.ok d, store', log') →
      ∃ r ∈ store'.tables.revisions, r.app = app ∧ d.revision = some r.ref ∧
        (store.tables.greatest app + 1 < UInt32.size →
          r.version.toNat = store.tables.greatest app + 1) := by
  constructor
  · intro s calls hnone hcalls app ds t
    have hnil : s.store.tables.Versioned [] := Tables.versioned_nil hnone
    have hrun : t.Versioned ([] ++ created (Call.runAll sink s calls).1) :=
      Call.versioned_invariant.runAll hcalls hnil
    rw [List.nil_append] at hrun
    refine ⟨fun d hd => hrun.stored hd, fun hlt => ?_⟩
    have hcounted : t.versionsOf app = List.range' 1 ds.length := hrun.counted app hlt
    have hversions : ds.map (fun d => d.revision.map (·.version.toNat)) =
        (List.range' 1 ds.length).map some := hcounted ▸ hrun.versions app
    have hdistinct : (ds.map fun d => d.revision.map (·.version.toNat)).Nodup := by
      rw [hversions]
      exact (List.nodup_range' 1).map fun _ _ => Option.some.inj
    have hmap : ds.map (fun d => d.revision.map (·.version.toNat)) =
        (ds.map fun d => d.revision.map (·.version)).map (Option.map UInt32.toNat) := by
      simp [Function.comp_def]
    exact ⟨hversions, (hmap ▸ hdistinct).of_map _, hcounted⟩
  · intro store store' log log' draws revisions app droplet user d hs h
    obtain ⟨-, e, t, ht, -, rfl⟩ := Deployment.create_ok.mp h
    obtain ⟨r, hrows, hr, hd, hversion⟩ := Deployment.createIn_revision hs ht
    refine ⟨r, ?_, hr, hd, hversion⟩
    rw [hrows]
    exact List.mem_append_right _ (List.mem_singleton_self r)

namespace Sample

/-- Stores a revision and then fails. -/
def halfway : RevisionCreator := fun app droplet => do
  let _ ← Revision.sequential ⟨"halfway"⟩ ⟨15, 0⟩ app droplet
  throw (.revision "halfway")

def faltering : List Call := [
  .transact (.each (opening "shop")),
  .transact (.each (opening "mill")),
  rollout "shop" "one" 10,
  .create (draws "halfway" 15) halfway ⟨"shop"⟩ (some ⟨"shop"⟩) ⟨"user", none, none⟩,
  rollout "mill" "first" 20,
  .setAvailable false,
  rollout "shop" "two" 30,
  .setAvailable true,
  .prune ⟨"shop"⟩ 0,
  rollout "shop" "three" 40,
  .pruneAll 0,
  rollout "mill" "second" 50]

def faltered : List Outcome × System (List AuditEvent) :=
  Call.runAll .memory ⟨.empty, []⟩ faltering

def revised : Store where
  tables := .after (opening "shop" ++ [
    .insertRevision ⟨⟨"seven"⟩, ⟨"shop"⟩, 7, ⟨"shop"⟩, ⟨9, 0⟩⟩,
    .insertRevision ⟨⟨"three"⟩, ⟨"shop"⟩, 3, ⟨"shop"⟩, ⟨5, 0⟩⟩,
    .insertRevision ⟨⟨"other"⟩, ⟨"mill"⟩, 9, ⟨"shop"⟩, ⟨7, 0⟩⟩])
  available := true

def eighth : Except DeployError Deployment × Store × List AuditEvent :=
  Deployment.create revised .memory [] (draws "next" 30) (Revision.sequential ⟨"next"⟩ ⟨30, 0⟩)
    ⟨"shop"⟩ (some ⟨"shop"⟩) ⟨"user", none, none⟩

lemma halfway_sequential : halfway.Sequential := by
  intro app droplet t r t' h
  obtain ⟨_, _, -, he⟩ := Tx.bind_ok.mp h
  cases he

end Sample

theorem revisions_numbered_of_shop :
    (∀ c ∈ Sample.faltering, c.Within Operation.Supplies RevisionCreator.Sequential) ∧
    (Deployment.sequence (created Sample.faltered.1) ⟨"shop"⟩).map
      (fun d => d.revision.map (·.version.toNat)) = [some 1, some 2] ∧
    Sample.faltered.2.store.tables.versionsOf ⟨"shop"⟩ = [1, 2] ∧
    Sample.revised.tables.greatest ⟨"shop"⟩ = 7 ∧
    ∃ d store' log', Sample.eighth = (.ok d, store', log') ∧
      ∃ r ∈ store'.tables.revisions, d.revision = some r.ref ∧ r.version.toNat = 8 := by
  have hopening : ∀ app, (Script.each (Sample.opening app)).Calls Operation.Supplies :=
    fun app => Script.each_calls (by simp [Sample.opening, Operation.Supplies])
  have hcalls : ∀ c ∈ Sample.faltering,
      c.Within Operation.Supplies RevisionCreator.Sequential := by
    simp [Sample.faltering, Sample.rollout, Call.Within, Revision.sequential_sequential, hopening,
      Sample.halfway_sequential]
  have hlength : (Deployment.sequence (created Sample.faltered.1) ⟨"shop"⟩).length = 2 := by
    decide +kernel
  have hgreatest : Sample.revised.tables.greatest ⟨"shop"⟩ = 7 := by decide +kernel
  have hshop : (Deployment.sequence (created Sample.faltered.1) ⟨"shop"⟩).map
      (fun d => d.revision.map (·.version.toNat)) = [some 1, some 2] ∧
      Sample.faltered.2.store.tables.versionsOf ⟨"shop"⟩ = [1, 2] := by
    have hrun := (revisions_numbered .memory).1 ⟨.empty, []⟩ Sample.faltering rfl hcalls ⟨"shop"⟩
    have hfaltered : Call.runAll .memory ⟨.empty, []⟩ Sample.faltering = Sample.faltered := rfl
    rw [hfaltered] at hrun
    obtain ⟨hversions, -, hstored⟩ := hrun.2 (by rw [hlength]; decide)
    rw [hlength] at hversions hstored
    exact ⟨hversions, hstored⟩
  refine ⟨hcalls, hshop.1, hshop.2, hgreatest, ?_⟩
  have hok : Sample.eighth.1.toBool = true := by decide +kernel
  rcases h : Sample.eighth with ⟨e | d, store', log'⟩
  · rw [h] at hok
    cases hok
  · refine ⟨d, store', log', rfl, ?_⟩
    obtain ⟨r, hr, -, hd, hversion⟩ := (revisions_numbered .memory).2 _ _ _ _ _ _ _ _ _ _
      (Revision.sequential_sequential _ _) h
    rw [hgreatest] at hversion
    exact ⟨r, hr, hd, hversion (by decide)⟩

end Main

end Rollout
