import Rollout.Proofs.Graph.Delivery

/-! Tasks and containers as workloads, which every mode of delivery builds from the same cargo. -/

namespace Rollout

/-- The same error on both sides, or two values that are related. -/
inductive Agree {ε α : Type} (R : α → α → Prop) : Except ε α → Except ε α → Prop
  | error (e : ε) : Agree R (.error e) (.error e)
  | ok {a b : α} (h : R a b) : Agree R (.ok a) (.ok b)

lemma Agree.of_ok {ε α : Type} {R : α → α → Prop} {x y : Except ε α} {a : α} (h : Agree R x y)
    (hx : x = .ok a) : ∃ b, y = .ok b ∧ R a b := by
  cases h with
  | error e => cases hx
  | ok hab =>
    cases hx
    exact ⟨_, rfl, hab⟩

/-- The settings of a platform whose mode of delivery is set anew. -/
def SchedulerSettings.inMode (s : SchedulerSettings) (mode : DeliveryMode) : SchedulerSettings :=
  { s with deliveryMode := mode }

lemma Checksum.select_sha256 {v : String} {legacy : Option String} (hv : v ≠ "") :
    select (some v) legacy = some ⟨.sha256, v⟩ := by
  rw [select, nonempty?_eq_some.mpr ⟨rfl, hv⟩]

lemma TaskSpec.checksum_of_layered {t : TaskSpec} {s : SchedulerSettings}
    (h : t.delivery s = .layered) : ∃ v, t.sha256Checksum = some v ∧ v ≠ "" ∧
      t.checksum = some ⟨.sha256, v⟩ := by
  obtain ⟨-, v, hsha, hne⟩ := delivery_layered.mp h
  exact ⟨v, hsha, hne, by rw [checksum, hsha, Checksum.select_sha256 hne]⟩

def ActionGraph.layers (g : ActionGraph) : List ImageLayer := g.imageLayers.getD []

/-- The bundles that a graph fetches: the names they are shared under, and where they are. -/
def ActionGraph.bundles (g : ActionGraph) : List (String × String) :=
  (g.cachedDependencies.getD []).map (fun d => (d.cacheKey, d.source)) ++
    (g.layers.filter (·.layerType = .shared)).map fun l => (l.name, l.url)

namespace Cargo

variable {c : Cargo} {delivery d : Delivery} {uri : String}
variable {environment : List EnvironmentVariable}

lemma agree {R : ActionGraph → ActionGraph → Prop}
    (h : ∀ uri environment, R (c.graph delivery uri environment) (c.graph d uri environment)) :
    Agree R (c.parts delivery).build (c.parts d).build := by
  rw [build_eq, build_eq]
  cases c.environment with
  | error e => exact .error e
  | ok environment =>
    cases c.lifecycleUri with
    | error e => exact .error e
    | ok uri => exact .ok (h uri environment)

lemma mem_layers {l : ImageLayer} : l ∈ (c.graph delivery uri environment).layers ↔
    delivery = .layered ∧ (l = .shared c.cacheKey uri lifecycleDestination ∨ l = c.layer) := by
  cases delivery <;> simp [ActionGraph.layers, graph]

lemma graph_bundles : (c.graph delivery uri environment).bundles = [(c.cacheKey, uri)] := by
  cases delivery with
  | download => rfl
  | layered =>
    simp [ActionGraph.bundles, ActionGraph.layers, graph, ImageLayer.shared, c.exclusive]

end Cargo

/-- A task with the variables that it is given, or a container. -/
inductive Workload where
  | task (spec : TaskSpec) (environment : List EnvironmentVariable)
  | container (spec : ContainerSpec)

namespace Workload

variable {w : Workload} {s : SchedulerSettings} {mode : DeliveryMode} {g : ActionGraph} {c : Cargo}

def build (s : SchedulerSettings) : Workload → Except ActionGraphError ActionGraph
  | task spec environment => spec.build s environment
  | container spec => spec.build s

def cargo (s : SchedulerSettings) : Workload → Except ActionGraphError Cargo
  | task spec environment => .ok (spec.cargo s environment)
  | container spec => spec.staged.map (·.cargo s)

def delivery (s : SchedulerSettings) : Workload → Delivery
  | task spec _ => spec.delivery s
  | container _ => .select s.deliveryMode true

def lifecycle : Workload → LifecycleType
  | task _ _ => .buildpack
  | container _ => .docker

def stack? : Workload → Option String
  | task spec _ => some spec.stack
  | container _ => none

def bundleKey (w : Workload) : String := w.lifecycle.bundleKey w.stack?

def cacheKey (w : Workload) : String := w.lifecycle.cacheKey w.stack?

lemma build_eq :
    w.build s = (w.cargo s).bind fun c => (c.parts (w.delivery s)).build := by
  cases w with
  | task spec environment => exact congrArg GraphParts.build TaskSpec.parts_eq
  | container spec =>
    rw [build, cargo, ContainerSpec.build]
    cases spec.staged with
    | error e => rfl
    | ok c => exact congrArg GraphParts.build StagedContainer.parts_eq

lemma container_cargo_ok {spec : ContainerSpec} :
    (container spec).cargo s = .ok c ↔ ∃ staged, spec.staged = .ok staged ∧ staged.cargo s = c :=
  map_ok

lemma build_ok : w.build s = .ok g ↔ ∃ c uri environment, w.cargo s = .ok c ∧
    c.lifecycleUri = .ok uri ∧ c.environment = .ok environment ∧
    g = c.graph (w.delivery s) uri environment := by
  simp only [build_eq, bind_ok, Cargo.build_ok, exists_and_left]

lemma cargo_bundle (h : w.cargo s = .ok c) : c.cacheKey = w.cacheKey ∧
    c.lifecycleUri = (s.lifecycleBundles.resolve w.lifecycle w.stack?).mapError .lifecycle := by
  cases w with
  | task spec environment =>
    cases h
    exact ⟨rfl, rfl⟩
  | container spec =>
    obtain ⟨staged, -, rfl⟩ := container_cargo_ok.mp h
    exact ⟨rfl, rfl⟩

lemma bundles_of_build (h : w.build s = .ok g) : ∃ uri,
    s.lifecycleBundles.resolve w.lifecycle w.stack? = .ok uri ∧
      g.bundles = [(w.cacheKey, uri)] := by
  obtain ⟨c, uri, environment, hc, huri, -, rfl⟩ := build_ok.mp h
  obtain ⟨hkey, hlifecycle⟩ := cargo_bundle hc
  refine ⟨uri, mapError_ok.mp (hlifecycle.symm.trans huri), ?_⟩
  rw [Cargo.graph_bundles, hkey]

/-- The mode decides how the cargo is delivered, and nothing else. -/
lemma build_inMode : w.build (s.inMode mode) =
    (w.cargo s).bind fun c => (c.parts (w.delivery (s.inMode mode))).build := by
  rw [build_eq]
  cases w <;> rfl

/-- A task's layer has the digest that its download is checked by. -/
def Verifies (download : DownloadAction) (layer : ImageLayer) : Workload → Prop
  | task _ _ => ∃ v, download.checksumAlgorithm = some .sha256 ∧ download.checksumValue = some v ∧
      layer.digestAlgorithm = some .sha256 ∧ layer.digestValue = some v
  | container _ => True

/-- Both graphs run the same, and layers, if those are the delivery, bring what is downloaded. -/
structure SameLoad (w : Workload) (d : Delivery) (downloaded layered : ActionGraph) : Prop where
  runs : ∃ run, downloaded.action.runs = [run] ∧ layered.action.runs = [run]
  environment : layered.environmentVariables = downloaded.environmentVariables
  form : layered.imageLayers = none ↔ d = .download
  fallback : d = .download → layered = downloaded
  layers : d = .layered → ∃ dependency download run lifecycle payload,
    downloaded.cachedDependencies = some [dependency] ∧
    downloaded.action = .serial [.download download, .run run] ∧
    layered.imageLayers = some [lifecycle, payload] ∧ layered.action = .run run ∧
    lifecycle.layerType = .shared ∧ payload.layerType = .exclusive ∧
    lifecycle.url = dependency.source ∧ lifecycle.name = dependency.cacheKey ∧
    lifecycle.destinationPath = dependency.destination ∧
    payload.url = download.source ∧ w.Verifies download payload

lemma verifies_cargo {download : DownloadAction} (hc : w.cargo s = .ok c)
    (hlayered : w.delivery (s.inMode mode) = .layered) (hd : c.download = .download download) :
    w.Verifies download c.layer := by
  cases w with
  | task spec environment =>
    cases hc
    obtain ⟨v, -, -, hchecksum⟩ := TaskSpec.checksum_of_layered hlayered
    cases hd
    refine ⟨v, ?_, ?_, ?_, ?_⟩ <;>
      simp [DownloadAction.withChecksum, ImageLayer.withSha256, TaskSpec.cargo, hchecksum]
  | container spec => trivial

lemma graph_sameLoad {uri : String} {environment : List EnvironmentVariable} {d : Delivery}
    (hv : d = .layered → ∀ download, c.download = .download download →
      w.Verifies download c.layer) :
    w.SameLoad d (c.graph .download uri environment) (c.graph d uri environment) := by
  obtain ⟨run, hrun, -⟩ := c.runs environment
  obtain ⟨download, hd, hsource⟩ := c.downloads
  have hserial : (c.graph .download uri environment).action =
      .serial [.download download, .run run] := by rw [← hd, ← hrun]; rfl
  have hruns : (c.graph .download uri environment).action.runs = [run] := by rw [hserial]; rfl
  cases d with
  | download => exact ⟨⟨run, hruns, hruns⟩, rfl, ⟨fun _ => rfl, fun _ => rfl⟩, fun _ => rfl, nofun⟩
  | layered =>
    refine ⟨⟨run, hruns, congrArg Action.runs hrun⟩, rfl, ⟨nofun, nofun⟩, nofun, fun _ => ?_⟩
    exact ⟨_, download, run, _, c.layer, rfl, hserial, rfl, hrun, rfl, c.exclusive, rfl, rfl, rfl,
      hsource.symm, hv rfl download hd⟩

end Workload

/--
An unset mode is that of downloading. Layers change how the payload of a workload comes, and neither
what is run nor whether and why the workload cannot be built.
-/
theorem modes_build_alike (s : SchedulerSettings) (w : Workload) :
    w.build (s.inMode .unset) = w.build (s.inMode .download) ∧
      Agree (w.SameLoad (w.delivery (s.inMode .ociPhase1)))
        (w.build (s.inMode .download)) (w.build (s.inMode .ociPhase1)) := by
  have hdownload : ∀ mode : DeliveryMode, mode.isOci = false →
      w.delivery (s.inMode mode) = .download := by
    intro mode hmode
    cases w <;>
      simp [Workload.delivery, TaskSpec.delivery, SchedulerSettings.inMode, Delivery.select, hmode]
  simp only [Workload.build_inMode, hdownload .unset rfl, hdownload .download rfl, true_and]
  cases hc : w.cargo s with
  | error e => exact .error e
  | ok c => exact Cargo.agree fun _ _ => Workload.graph_sameLoad fun hlayered _ hd =>
      Workload.verifies_cargo hc hlayered hd

/-- A task with a checksum comes in layers, and one without it falls back. -/
theorem modes_build_alike_of_shop :
    (∃ downloaded layered download run lifecycle payload checksum,
      (Sample.task "abc").build (Sample.platform .download) [] = .ok downloaded ∧
      (Sample.task "abc").build (Sample.platform .ociPhase1) [] = .ok layered ∧
      downloaded.action = .serial [.download download, .run run] ∧
      layered.imageLayers = some [lifecycle, payload] ∧ layered.action = .run run ∧
      payload.url = download.source ∧ download.checksumValue = some checksum ∧
      payload.digestValue = some checksum) ∧
    ∃ graph, (Sample.task "").build (Sample.platform .download) [] = .ok graph ∧
      (Sample.task "").build (Sample.platform .ociPhase1) [] = .ok graph := by
  have halike := fun sha256 => (modes_build_alike (Sample.platform .unset)
    (.task (Sample.task sha256) [])).2
  constructor
  · have hok : ((Sample.task "abc").build (Sample.platform .download) []).toBool = true := by
      decide +kernel
    obtain ⟨downloaded, hdownloaded⟩ := exists_of_toBool hok
    obtain ⟨layered, hlayered, hload⟩ := (halike "abc").of_ok hdownloaded
    obtain ⟨-, download, run, lifecycle, payload, -, hserial, himage, hrun, -, -, -, -, -, hsource,
      checksum, -, hchecked, -, hdigest⟩ := hload.layers rfl
    exact ⟨downloaded, layered, download, run, lifecycle, payload, checksum, hdownloaded, hlayered,
      hserial, himage, hrun, hsource, hchecked, hdigest⟩
  · have hok : ((Sample.task "").build (Sample.platform .download) []).toBool = true := by
      decide +kernel
    obtain ⟨graph, hgraph⟩ := exists_of_toBool hok
    obtain ⟨layered, hlayered, hload⟩ := (halike "").of_ok hgraph
    obtain rfl := hload.fallback rfl
    exact ⟨layered, hgraph, hlayered⟩

end Rollout
