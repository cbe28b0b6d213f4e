import Rollout.Deploy.Create
import Rollout.Proofs.Store.Integrity

/-! What a creation finds in the tables, or why it is refused. -/

namespace Rollout

/-- What a creation starts from: the app, the droplet that it is to run, its oldest web process. -/
structure Launch where
  app : App
  droplet : Droplet
  web : AppProcess

namespace Launch

variable (l : Launch) (draws : CreateDraws)

def assigned : App := { l.app with droplet := some l.droplet.guid }

def deployment (instances : UInt32) (r : Revision) : Deployment where
  guid := draws.deploymentGuid
  app := l.app.guid
  droplet := some l.droplet.guid
  previousDroplet := l.app.droplet
  state := .deploying
  deployingWebProcess := some draws.processGuid
  originalWebProcessInstanceCount := instances
  revision := some ⟨r.guid, r.version⟩
  createdAt := draws.time
  updatedAt := draws.time

def shadow (d : Deployment) : AppProcess := l.web.replicate d draws.processGuid draws.processTime

def record (d : Deployment) : HistoricalProcess :=
  ⟨d.guid, draws.processGuid, (l.shadow draws d).label, draws.time⟩

def event (user : UserAuditInfo) (d : Deployment) : AuditEvent :=
  .forApp AuditEvent.deploymentCreate user l.assigned
    (.ofList [("droplet_guid", l.droplet.guid.text), ("deployment_guid", d.guid.text)])
    draws.auditTime

end Launch

namespace Tables

def assignable? (t : Tables) (app : AppGuid) (droplet : Option DropletGuid) : Option Droplet :=
  (droplet.bind t.droplet?).filter (·.app = app)

def oldestWeb? (t : Tables) (app : AppGuid) : Option AppProcess :=
  (t.processesOf app).find? (·.type.isWeb)

def launch? (t : Tables) (app : AppGuid) (droplet : Option DropletGuid) :
    Except DeployError Launch :=
  match t.app? app with
  | none => .error (.store (.appNotFound app.text))
  | some a =>
    match t.assignable? a.guid droplet with
    | none => .error .setCurrentDroplet
    | some d =>
      match t.oldestWeb? a.guid with
      | none => .error (.noWebProcess a.guid.text)
      | some web => .ok ⟨a, d, web⟩

def withApp (t : Tables) (a : App) : Tables :=
  { t with apps := replaceFirst (·.guid = a.guid) a t.apps }

variable {t t' : Tables} {app : AppGuid} {droplet : Option DropletGuid} {l : Launch}

lemma assignable?_eq_some {d : Droplet} :
    t.assignable? app droplet = some d ↔
      ∃ guid, droplet = some guid ∧ t.droplet? guid = some d ∧ d.app = app := by
  rw [assignable?, Option.filter_eq_some_iff, Option.bind_eq_some_iff]
  simp only [decide_eq_true_eq]
  constructor
  · rintro ⟨⟨guid, hg, hd⟩, ha⟩
    exact ⟨guid, hg, hd, ha⟩
  · rintro ⟨guid, hg, hd, ha⟩
    exact ⟨⟨guid, hg, hd⟩, ha⟩

lemma launch?_ok :
    t.launch? app droplet = .ok l ↔ t.app? app = some l.app ∧
      t.assignable? l.app.guid droplet = some l.droplet ∧ t.oldestWeb? l.app.guid = some l.web := by
  obtain ⟨a, d, web⟩ := l
  unfold launch?
  constructor
  · intro h
    split at h
    · cases h
    · next ha =>
      split at h
      · cases h
      · next hd =>
        split at h
        · cases h
        · next hw =>
          cases h
          exact ⟨ha, hd, hw⟩
  · rintro ⟨ha, hd, hw⟩
    dsimp only at ha hd hw
    simp only [ha, hd, hw]

lemma app_of_launch? (h : t.launch? app droplet = .ok l) : l.app ∈ t.apps ∧ l.app.guid = app :=
  of_find_key (launch?_ok.mp h).1

lemma web_of_launch? (h : t.launch? app droplet = .ok l) :
    l.web ∈ t.processes ∧ l.web.app = app ∧ l.web.type.isWeb = true := by
  have hw := (launch?_ok.mp h).2.2
  rw [oldestWeb?] at hw
  have hm := List.mem_of_find?_eq_some hw
  simp only [processesOf, mem_sortByCreation, List.mem_filter, decide_eq_true_eq,
    (app_of_launch? h).2] at hm
  exact ⟨hm.1, hm.2, by simpa using List.find?_some hw⟩

end Tables

namespace Deployment

variable {t t' : Tables} {app : App} {droplet : Option DropletGuid}

lemma assignableDroplet_apply :
    assignableDroplet app droplet t = match t.assignable? app.guid droplet with
      | some d => (.ok d, t)
      | none => (.error .setCurrentDroplet, t) := by
  unfold assignableDroplet Tables.assignable?
  cases droplet with
  | none => rfl
  | some guid =>
    dsimp only
    rw [Tx.bind_apply, Option.bind_some]
    dsimp only [Tx.ask]
    cases t.droplet? guid with
    | none => rfl
    | some d =>
      by_cases ha : d.app = app.guid
      · simp only [ha, if_true, Option.filter_some, decide_true]
        rfl
      · simp only [ha, if_false, Option.filter_some, decide_false, Bool.false_eq_true]
        rfl

lemma assignableDroplet_ok {d : Droplet} :
    assignableDroplet app droplet t = (.ok d, t') ↔
      t.assignable? app.guid droplet = some d ∧ t = t' := by
  rw [assignableDroplet_apply]
  cases t.assignable? app.guid droplet with
  | some c =>
    constructor
    · rintro ⟨⟩
      exact ⟨rfl, rfl⟩
    · rintro ⟨⟨⟩, rfl⟩
      rfl
  | none =>
    constructor
    · rintro ⟨⟩
    · rintro ⟨⟨⟩, _⟩

lemma oldestWebProcess_apply :
    oldestWebProcess app t = match t.oldestWeb? app.guid with
      | some p => (.ok p, t)
      | none => (.error (.noWebProcess app.guid.text), t) := by
  unfold oldestWebProcess
  rw [Tx.bind_apply]
  dsimp only [Tx.ask]
  change (match t.oldestWeb? app.guid with
    | some p => (pure p : Tx DeployError AppProcess)
    | none => throw _) t = _
  cases t.oldestWeb? app.guid <;> rfl

lemma oldestWebProcess_ok {p : AppProcess} :
    oldestWebProcess app t = (.ok p, t') ↔ t.oldestWeb? app.guid = some p ∧ t = t' := by
  rw [oldestWebProcess_apply]
  cases t.oldestWeb? app.guid with
  | some q =>
    constructor
    · rintro ⟨⟩
      exact ⟨rfl, rfl⟩
    · rintro ⟨⟨⟩, rfl⟩
      rfl
  | none =>
    constructor
    · rintro ⟨⟩
    · rintro ⟨⟨⟩, _⟩

lemma assignableDroplet_keeps {I : Tables → Prop} : (assignableDroplet app droplet).Keeps I := by
  intro t h
  rw [assignableDroplet_apply]
  split <;> exact h

lemma oldestWebProcess_keeps {I : Tables → Prop} : (oldestWebProcess app).Keeps I := by
  intro t h
  rw [oldestWebProcess_apply]
  split <;> exact h

end Deployment

end Rollout
