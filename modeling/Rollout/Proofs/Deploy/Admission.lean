import Rollout.Proofs.Deploy.Effect

/-! When a creation succeeds, and which error it gives when it does not. -/

namespace Rollout

namespace Tables

/-- The droplet is asked for, stored, and one of the app. -/
def Assignable (t : Tables) (app : AppGuid) (droplet : Option DropletGuid) : Prop :=
  ∃ d ∈ t.droplets, droplet = some d.guid ∧ d.app = app

/-- Shadows of rollouts, tasks and workers do not count, whatever a worker is named. -/
def HasWeb (t : Tables) (app : AppGuid) : Prop :=
  ∃ p ∈ t.processes, p.app = app ∧ p.type = .web

variable {t : Tables} {app : AppGuid} {droplet : Option DropletGuid}

instance : Decidable (t.Assignable app droplet) :=
  inferInstanceAs (Decidable (∃ d ∈ t.droplets, droplet = some d.guid ∧ d.app = app))

instance : Decidable (t.HasWeb app) :=
  inferInstanceAs (Decidable (∃ p ∈ t.processes, p.app = app ∧ p.type = .web))

lemma app?_isSome : (t.app? app).isSome ↔ app ∈ t.apps.map (·.guid) := by
  rw [app?, List.find?_isSome, ← List.any_eq_true, any_key_iff]

lemma assignable?_isSome (h : (t.droplets.map (·.guid)).Nodup) :
    (t.assignable? app droplet).isSome ↔ t.Assignable app droplet := by
  rw [Option.isSome_iff_exists]
  constructor
  · rintro ⟨d, hd⟩
    obtain ⟨guid, rfl, hfind, happ⟩ := assignable?_eq_some.mp hd
    obtain ⟨hstored, rfl⟩ := of_find_key hfind
    exact ⟨d, hstored, rfl, happ⟩
  · rintro ⟨d, hstored, rfl, happ⟩
    exact ⟨d, assignable?_eq_some.mpr ⟨d.guid, rfl, find_key_of_mem h hstored rfl, happ⟩⟩

lemma oldestWeb?_isSome : (t.oldestWeb? app).isSome ↔ t.HasWeb app := by
  simp only [oldestWeb?, processesOf, List.find?_isSome, mem_sortByCreation, List.mem_filter,
    decide_eq_true_eq, AppProcess.isWeb_iff, HasWeb, and_assoc]

lemma launch?_unknown (h : app ∉ t.apps.map (·.guid)) :
    t.launch? app droplet = .error (.store (.appNotFound app.text)) := by
  rw [← app?_isSome, Option.not_isSome_iff_eq_none] at h
  simp only [launch?, h]

lemma exists_app (h : app ∈ t.apps.map (·.guid)) : ∃ a, t.app? app = some a ∧ a.guid = app := by
  obtain ⟨a, ha⟩ := Option.isSome_iff_exists.mp (app?_isSome.mpr h)
  exact ⟨a, ha, (of_find_key ha).2⟩

lemma launch?_unassignable (hi : (t.droplets.map (·.guid)).Nodup)
    (happ : app ∈ t.apps.map (·.guid)) (h : ¬ t.Assignable app droplet) :
    t.launch? app droplet = .error .setCurrentDroplet := by
  obtain ⟨a, ha, rfl⟩ := exists_app happ
  rw [← assignable?_isSome hi, Option.not_isSome_iff_eq_none] at h
  simp only [launch?, ha, h]

lemma launch?_webless (hi : (t.droplets.map (·.guid)).Nodup) (happ : app ∈ t.apps.map (·.guid))
    (hd : t.Assignable app droplet) (h : ¬ t.HasWeb app) :
    t.launch? app droplet = .error (.noWebProcess app.text) := by
  obtain ⟨a, ha, rfl⟩ := exists_app happ
  obtain ⟨d, hd⟩ := Option.isSome_iff_exists.mp ((assignable?_isSome hi).mpr hd)
  rw [← oldestWeb?_isSome, Option.not_isSome_iff_eq_none] at h
  simp only [launch?, ha, hd, h]

lemma exists_launch (hi : (t.droplets.map (·.guid)).Nodup) (happ : app ∈ t.apps.map (·.guid))
    (hd : t.Assignable app droplet) (hw : t.HasWeb app) :
    ∃ l, t.launch? app droplet = .ok l := by
  obtain ⟨a, ha, rfl⟩ := exists_app happ
  obtain ⟨d, hd⟩ := Option.isSome_iff_exists.mp ((assignable?_isSome hi).mpr hd)
  obtain ⟨web, hw⟩ := Option.isSome_iff_exists.mp (oldestWeb?_isSome.mpr hw)
  exact ⟨⟨a, d, web⟩, launch?_ok.mpr ⟨ha, hd, hw⟩⟩

end Tables

/-- What a creation comes to: it fails for the first thing that it misses, or it misses nothing. -/
inductive Admission (store : Store) (app : AppGuid) (droplet : Option DropletGuid) :
    Except DeployError Unit → Prop
  | unavailable (hstore : store.available = false) :
      Admission store app droplet (.error (.store Store.disabled))
  | unknown (hstore : store.available = true) (happ : app ∉ store.tables.apps.map (·.guid)) :
      Admission store app droplet (.error (.store (.appNotFound app.text)))
  | unassignable (hstore : store.available = true) (happ : app ∈ store.tables.apps.map (·.guid))
      (hdroplet : ¬ store.tables.Assignable app droplet) :
      Admission store app droplet (.error .setCurrentDroplet)
  | webless (hstore : store.available = true) (happ : app ∈ store.tables.apps.map (·.guid))
      (hdroplet : store.tables.Assignable app droplet) (hweb : ¬ store.tables.HasWeb app) :
      Admission store app droplet (.error (.noWebProcess app.text))
  | admitted (hstore : store.available = true) (happ : app ∈ store.tables.apps.map (·.guid))
      (hdroplet : store.tables.Assignable app droplet) (hweb : store.tables.HasWeb app) :
      Admission store app droplet (.ok ())

section Main

variable {store : Store} {draws : CreateDraws} {guid : RevisionGuid} {time : Instant}
variable {app : AppGuid} {droplet : Option DropletGuid} {user : UserAuditInfo}
variable {log : List AuditEvent} {x : Except DeployError Unit}

lemma admission_exists (store : Store) (app : AppGuid) (droplet : Option DropletGuid) :
    ∃ x, Admission store app droplet x := by
  cases hstore : store.available with
  | false => exact ⟨_, .unavailable hstore⟩
  | true =>
    by_cases happ : app ∈ store.tables.apps.map (·.guid)
    · by_cases hdroplet : store.tables.Assignable app droplet
      · by_cases hweb : store.tables.HasWeb app
        · exact ⟨_, .admitted hstore happ hdroplet hweb⟩
        · exact ⟨_, .webless hstore happ hdroplet hweb⟩
      · exact ⟨_, .unassignable hstore happ hdroplet⟩
    · exact ⟨_, .unknown hstore happ⟩

namespace Deployment

lemma create_unavailable {revisions : RevisionCreator} (ha : store.available = false) :
    (create store .memory log draws revisions app droplet user).1 =
      .error (.store Store.disabled) := by
  simp only [create, Store.transaction, ha, Bool.false_eq_true, if_false]

lemma create_refused {revisions : RevisionCreator} {e : DeployError} (ha : store.available = true)
    (h : store.tables.launch? app droplet = .error e) :
    (create store .memory log draws revisions app droplet user).1 = .error e := by
  have hin : (createIn draws revisions app droplet user store.tables).1 = .error e :=
    createIn_refused h
  rcases hc : createIn draws revisions app droplet user store.tables with ⟨y, t⟩
  rw [hc] at hin
  obtain rfl : y = .error e := hin
  simp only [create, Store.transaction, ha, if_true, hc]

lemma create_admitted {l : Launch} (hi : store.tables.Intact) (hnew : draws.New store.tables)
    (hguid : guid ∉ store.tables.revisions.map (·.guid)) (ha : store.available = true)
    (h : store.tables.launch? app droplet = .ok l) :
    ∃ d, (create store .memory log draws (Revision.sequential guid time) app droplet user).1 =
      .ok d := by
  let r := Revision.next guid time store.tables l.app l.droplet
  let d := l.successor draws r store.tables
  have hin : createIn draws (Revision.sequential guid time) app droplet user store.tables =
      (.ok (d, l.event draws user d), l.rolledOut draws r store.tables) :=
    createIn_total hi hnew hguid h
  have hok : create store .memory log draws (Revision.sequential guid time) app droplet user =
      (.ok d, _, log ++ [l.event draws user d]) := create_ok.mpr ⟨ha, _, _, hin, rfl, rfl⟩
  exact ⟨d, congrArg Prod.fst hok⟩

lemma create_of_admission (hi : store.tables.Intact) (hnew : draws.New store.tables)
    (hguid : guid ∉ store.tables.revisions.map (·.guid)) (h : Admission store app droplet x) :
    (create store .memory log draws (Revision.sequential guid time) app droplet user).1.map
      (fun _ => ()) = x := by
  cases h with
  | unavailable ha => rw [create_unavailable ha, Except.map]
  | unknown ha happ => rw [create_refused ha (Tables.launch?_unknown happ), Except.map]
  | unassignable ha happ hd =>
    rw [create_refused ha (Tables.launch?_unassignable hi.droplets happ hd), Except.map]
  | webless ha happ hd hw =>
    rw [create_refused ha (Tables.launch?_webless hi.droplets happ hd hw), Except.map]
  | admitted ha happ hd hw =>
    obtain ⟨l, hl⟩ := Tables.exists_launch hi.droplets happ hd hw
    obtain ⟨d, hok⟩ := create_admitted hi hnew hguid ha hl
    rw [hok, Except.map]

lemma create_admission_iff (hi : store.tables.Intact) (hnew : draws.New store.tables)
    (hguid : guid ∉ store.tables.revisions.map (·.guid)) :
    (create store .memory log draws (Revision.sequential guid time) app droplet user).1.map
      (fun _ => ()) = x ↔ Admission store app droplet x := by
  refine ⟨?_, create_of_admission hi hnew hguid⟩
  rintro rfl
  obtain ⟨x, hx⟩ := admission_exists store app droplet
  rwa [create_of_admission hi hnew hguid hx]

end Deployment

/--
A creation with fresh guids fails because the store is out of reach, the app is not stored, the
droplet is not one of the app or the app has no web process, and for the first of these that holds.
Otherwise it succeeds: nothing that it writes is refused.
-/
theorem creation_decided (h : store.tables.Built) (hnew : draws.New store.tables)
    (hguid : guid ∉ store.tables.revisions.map (·.guid)) (time : Instant) (app : AppGuid)
    (droplet : Option DropletGuid) (user : UserAuditInfo) (log : List AuditEvent) :
    let made := (Deployment.create store .memory log draws (Revision.sequential guid time) app
      droplet user).1
    (∀ e, made = .error e ↔ Admission store app droplet (.error e)) ∧
      ((∃ d, made = .ok d) ↔ Admission store app droplet (.ok ())) := by
  intro made
  have hiff : ∀ x, made.map (fun _ => ()) = x ↔ Admission store app droplet x :=
    fun _ => Deployment.create_admission_iff h.intact hnew hguid
  simp only [← hiff]
  cases made with
  | error e => simp [Except.map]
  | ok d => simp [Except.map]

end Main

namespace Sample

/-- The only processes are a worker of the name `web` and the shadow of a rollout. -/
def manned : List Operation := [
  .insertApp ⟨⟨"shop"⟩, "shop", "space", "organization", none, ⟨0, 0⟩⟩,
  .insertDroplet ⟨⟨"shop"⟩, ⟨"shop"⟩, none, none, ⟨1, 0⟩⟩,
  .insertProcess (.initial ⟨"hand"⟩ ⟨"shop"⟩ (.worker "web") ⟨2, 0⟩),
  .insertProcess (.initial ⟨"shade"⟩ ⟨"shop"⟩ .deployingWeb ⟨2, 0⟩)]

def closedShop : Store := ⟨.after manned, true⟩

def openShop : Store :=
  ⟨.after (manned ++ [.insertProcess (.initial ⟨"shop"⟩ ⟨"shop"⟩ .web ⟨3, 0⟩)]), true⟩

def launch (store : Store) : Except DeployError Deployment :=
  (Deployment.create store .memory [] (draws "next" 30) (Revision.sequential ⟨"next"⟩ ⟨30, 0⟩)
    ⟨"shop"⟩ (some ⟨"shop"⟩) ⟨"user", none, none⟩).1

lemma draws_new_of_unrouted {t : Tables} {tag : String} {second : Int} (hr : t.routeMappings = [])
    (hd : ⟨tag⟩ ∉ t.deployments.map (·.guid)) (hp : ⟨tag⟩ ∉ t.processes.map (·.guid)) :
    (draws tag second).New t where
  deployment := hd
  process := hp
  routes := by simp [hr]
  mappings := by simp [hr]
  injective := draws_injective

end Sample

theorem creation_decided_of_shop :
    (Sample.closedShop.tables.Built ∧ (Sample.draws "next" 30).New Sample.closedShop.tables ∧
      ⟨"next"⟩ ∉ Sample.closedShop.tables.revisions.map (·.guid) ∧
      Sample.launch Sample.closedShop = .error (.noWebProcess "shop")) ∧
    Sample.openShop.tables.Built ∧ (Sample.draws "next" 30).New Sample.openShop.tables ∧
      ⟨"next"⟩ ∉ Sample.openShop.tables.revisions.map (·.guid) ∧
      ∃ d, Sample.launch Sample.openShop = .ok d := by
  have hclosed : Sample.closedShop.tables.Built := Tables.built_after _
  have hopen : Sample.openShop.tables.Built := Tables.built_after _
  have hnew : (Sample.draws "next" 30).New Sample.closedShop.tables :=
    Sample.draws_new_of_unrouted rfl (by decide +kernel) (by decide +kernel)
  have hnew' : (Sample.draws "next" 30).New Sample.openShop.tables :=
    Sample.draws_new_of_unrouted rfl (by decide +kernel) (by decide +kernel)
  have hguid : ⟨"next"⟩ ∉ Sample.closedShop.tables.revisions.map (·.guid) := by decide +kernel
  have hguid' : ⟨"next"⟩ ∉ Sample.openShop.tables.revisions.map (·.guid) := by decide +kernel
  refine ⟨⟨hclosed, hnew, hguid, ?_⟩, hopen, hnew', hguid', ?_⟩
  · exact ((creation_decided hclosed hnew hguid _ _ _ _ _).1 _).mpr
      (.webless rfl (by decide +kernel) (by decide +kernel) (by decide +kernel))
  · exact (creation_decided hopen hnew' hguid' _ _ _ _ _).2.mpr
      (.admitted rfl (by decide +kernel) (by decide +kernel) (by decide +kernel))

end Rollout
