import Rollout.Proofs.Deploy.RolledOut
import Rollout.Proofs.Run
import Rollout.Proofs.Store.Seniority

/-! What a rollout writes, table by table, and that it writes nothing else. -/

namespace Rollout

namespace AppProcess

/-- `p` runs as `source` does, but started, alone, and for the rollout `d`. -/
structure Shadows (p source : AppProcess) (d : Deployment) : Prop where
  app : p.app = source.app
  memory : p.memoryMb = source.memoryMb
  disk : p.diskQuotaMb = source.diskQuotaMb
  descriptors : p.fileDescriptors = source.fileDescriptors
  command : p.command = source.command
  buildpack : p.detectedBuildpack = source.detectedBuildpack
  healthCheck : p.healthCheck = source.healthCheck
  ssh : p.enableSsh = source.enableSsh
  ports : p.ports = source.ports
  metadata : p.metadata = source.metadata
  type : p.type = .deployingWeb
  state : p.state = .started
  instances : p.instances = 1
  deployment : p.deployment = some d.guid
  revision : p.revision = d.revision.map (·.guid)
  guid : some p.guid = d.deployingWebProcess

lemma isWeb_iff {p : AppProcess} : p.type.isWeb = true ↔ p.type = .web := by
  cases p.type <;> simp [ProcessType.isWeb]

end AppProcess

namespace Tables

variable {t : Tables} {app : AppGuid} {p : AppProcess} {source target : ProcessGuid}

structure IsOldestWeb (t : Tables) (app : AppGuid) (p : AppProcess) : Prop where
  stored : p ∈ t.processes
  owner : p.app = app
  type : p.type = .web
  first : ∀ q ∈ t.processes, q.app = app → q.type = .web → q ≠ p →
    Precedes (·.createdAt) t.processes p q

lemma isOldestWeb_of_oldestWeb? (h : t.oldestWeb? app = some p) : t.IsOldestWeb app p := by
  obtain ⟨hm, hw, hfirst⟩ := find?_sortByCreation h
  obtain ⟨hstored, happ⟩ := List.mem_filter.mp hm
  refine ⟨hstored, of_decide_eq_true happ, AppProcess.isWeb_iff.mp hw, ?_⟩
  intro q hq ha hweb hne
  have hq : q ∈ t.processes.filter (·.app = app) := List.mem_filter.mpr ⟨hq, decide_eq_true ha⟩
  exact (hfirst q hq (AppProcess.isWeb_iff.mpr hweb) hne).of_filter

lemma missing_of_unmapped (h : target ∉ t.routeMappings.map (·.process)) :
    t.missing source target = t.mappingsOf source := by
  have hnone : t.mappingsOf target = [] := by
    rw [mappingsOf, filter_key_eq_nil h, sortByCreation]
  rw [missing, hnone, RouteMapping.missing]
  exact List.filter_eq_self.mpr fun _ _ => rfl

/--
`t'` is what the rollout `d` makes of `t`: it runs `droplet` in a shadow of `web`, under the
revision `r`.
-/
structure Launched (draws : CreateDraws) (app : AppGuid) (droplet : DropletGuid)
    (web : AppProcess) (r : Revision) (d : Deployment) (t t' : Tables) : Prop where
  apps : t'.apps = t.apps.map fun a =>
    if a.guid = app then { a with droplet := some droplet } else a
  droplets : t'.droplets = t.droplets
  revisions : t'.revisions = t.revisions ++ [r]
  processes : ∃ p : AppProcess, t'.processes = t.processes ++ [p] ∧ p.Shadows web d ∧
    p.createdAt = draws.processTime ∧ p.updatedAt = draws.processTime
  mappings : t'.routeMappings = t.routeMappings ++
    (t.mappingsOf web.guid).zipIdx.map fun (m, n) =>
      ⟨draws.mappings.guid n, m.app, m.route, draws.processGuid, m.weight, draws.mappings.time n⟩
  deployments : t'.deployments = t.deployments.map (fun x =>
    if x.app = app ∧ x.isDeploying then { x with state := .deployed, updatedAt := draws.time }
    else x) ++ [d]
  history : t'.historicalProcesses = t.historicalProcesses ++
    [⟨d.guid, draws.processGuid, "web-deployment-" ++ d.guid.text, draws.time⟩]

variable {l : Launch} {draws : CreateDraws} {r : Revision}

lemma apps_assigned (h : (t.apps.map (·.guid)).Nodup) (hl : l.app ∈ t.apps) :
    replaceFirst (·.guid = l.app.guid) l.assigned t.apps = t.apps.map fun a =>
      if a.guid = l.app.guid then { a with droplet := some l.droplet.guid } else a := by
  rw [replaceFirst_eq_map h]
  apply List.map_congr_left
  intro a ha
  by_cases hg : a.guid = l.app.guid
  · obtain rfl := List.inj_on_of_nodup_map h ha hl hg
    rfl
  · rw [if_neg hg, if_neg hg]

lemma launched_rolledOut (h : t.Intact) (hl : l.app ∈ t.apps)
    (hnew : draws.processGuid ∉ t.routeMappings.map (·.process)) :
    Launched draws l.app.guid l.droplet.guid l.web r (l.successor draws r t) t
      (l.rolledOut draws r t) where
  apps := apps_assigned h.apps hl
  droplets := rfl
  revisions := rfl
  processes := ⟨l.shadow draws (l.successor draws r t), rfl, by constructor <;> rfl, rfl, rfl⟩
  mappings := by
    rw [Launch.rolledOut, missing_of_unmapped hnew]
    rfl
  deployments := rfl
  history := rfl

end Tables

section Main

variable {σ : Type} {store store' : Store} {sink : AuditSink σ} {log log' : σ}
variable {draws : CreateDraws} {guid : RevisionGuid} {time : Instant} {app : AppGuid}
variable {droplet : DropletGuid} {user : UserAuditInfo} {d : Deployment}

/--
A rollout that succeeds writes one revision, one shadow of the oldest web process with the routes
of that process, one deployment and one line of history; it assigns the droplet and ends the
rollouts in flight. All else stays as it was.
-/
theorem rollout_effect (hb : store.tables.Built)
    (hnew : draws.processGuid ∉ store.tables.routeMappings.map (·.process))
    (h : Deployment.create store sink log draws (Revision.sequential guid time) app (some droplet)
      user = (.ok d, store', log')) :
    ∃ web t',
      let t := store.tables
      let r : Revision := ⟨guid, app, Revision.latest (t.revisionsOf app) + 1, droplet, time⟩
      t.IsOldestWeb app web ∧
      d = {
        guid := draws.deploymentGuid
        app
        droplet := some droplet
        previousDroplet := (t.app? app).bind (·.droplet)
        state := .deploying
        deployingWebProcess := some draws.processGuid
        originalWebProcessInstanceCount := ((t.inFlight app).getLast?.map
          (·.originalWebProcessInstanceCount)).getD web.instances
        revision := some ⟨r.guid, r.version⟩
        createdAt := draws.time
        updatedAt := draws.time } ∧
      store' = { store with tables := t' } ∧
      Tables.Launched draws app droplet web r d t t' := by
  have hi := hb.intact
  obtain ⟨-, e, t', hc, -, rfl⟩ := Deployment.create_ok.mp h
  obtain ⟨l, hl, -, -, -, rfl, rfl⟩ := Deployment.createIn_rolledOut hi.deployments hc
  obtain ⟨happ, hd, hw⟩ := Tables.launch?_ok.mp hl
  obtain ⟨hstored, rfl⟩ := Tables.app_of_launch? hl
  obtain ⟨g, hg, hd, -⟩ := Tables.assignable?_eq_some.mp hd
  have hdroplet : l.droplet.guid = droplet := (of_find_key hd).2.trans (Option.some.inj hg).symm
  subst hdroplet
  refine ⟨l.web, _, Tables.isOldestWeb_of_oldestWeb? hw, ?_, rfl,
    Tables.launched_rolledOut hi hstored hnew⟩
  rw [happ]
  rfl

end Main

namespace Sample

/-- A twin of the web process, a shadow older than both, and a second route before the first. -/
def staffed : List Operation :=
  crowded ++ [
    .insertProcess (.initial ⟨"twin"⟩ ⟨"shop"⟩ .web ⟨2, 0⟩),
    .insertProcess (.initial ⟨"shade"⟩ ⟨"shop"⟩ .deployingWeb ⟨1, 0⟩),
    .insertMapping ⟨⟨"side"⟩, ⟨"shop"⟩, ⟨"side"⟩, ⟨"shop"⟩, some 5, ⟨2, 0⟩⟩,
    .insertMapping ⟨⟨"else"⟩, ⟨"shop"⟩, ⟨"else"⟩, ⟨"twin"⟩, none, ⟨1, 0⟩⟩]

def expansion : Except DeployError Deployment × Store × List AuditEvent :=
  Deployment.create ⟨.after staffed, true⟩ .memory [] (draws "next" 30)
    (Revision.sequential ⟨"next"⟩ ⟨30, 0⟩) ⟨"shop"⟩ (some ⟨"shop"⟩) ⟨"user", none, none⟩

end Sample

theorem rollout_effect_of_shop :
    (Tables.after Sample.staffed).Built ∧
    (Sample.draws "next" 30).processGuid ∉
      (Tables.after Sample.staffed).routeMappings.map (·.process) ∧
    ∃ d t' log', Sample.expansion = (.ok d, ⟨t', true⟩, log') ∧
      t'.routeMappings.map (·.route.text) = ["shop", "side", "else", "side", "shop"] ∧
      ∃ web, (Tables.after Sample.staffed).IsOldestWeb ⟨"shop"⟩ web ∧
        Tables.Launched (Sample.draws "next" 30) ⟨"shop"⟩ ⟨"shop"⟩ web
          ⟨⟨"next"⟩, ⟨"shop"⟩, 1, ⟨"shop"⟩, ⟨30, 0⟩⟩ d (.after Sample.staffed) t' := by
  have hbuilt : (Tables.after Sample.staffed).Built := Tables.built_after _
  have hnew : (Sample.draws "next" 30).processGuid ∉
      (Tables.after Sample.staffed).routeMappings.map (·.process) := by decide +kernel
  refine ⟨hbuilt, hnew, ?_⟩
  have hok : Sample.expansion.1.toBool = true := by decide +kernel
  have hroutes : Sample.expansion.2.1.tables.routeMappings.map (·.route.text) =
      ["shop", "side", "else", "side", "shop"] := by decide +kernel
  rcases h : Sample.expansion with ⟨e | d, store', log'⟩
  · rw [h] at hok
    cases hok
  · rw [h] at hroutes
    obtain ⟨web, t', hw, -, rfl, ht⟩ := rollout_effect hbuilt hnew h
    exact ⟨d, t', log', rfl, hroutes, web, hw, ht⟩

end Rollout
