import Mathlib.Tactic.Lemma
import Rollout.Graph.Container
import Rollout.Graph.Task
import Rollout.Url.Parser

/-! Every action graph brings its payload in one of two forms, and runs it once. -/

namespace Rollout

lemma nonempty?_eq_some {text : Option String} {v : String} :
    nonempty? text = some v ↔ text = some v ∧ v ≠ "" := by
  cases text with
  | none => simp [nonempty?]
  | some s =>
    by_cases hs : s = ""
    · subst hs
      constructor
      · rintro ⟨⟩
      · rintro ⟨h, hv⟩
        exact absurd (Option.some.inj h).symm hv
    · simp only [nonempty?, String.isEmpty_iff, hs, if_false, Option.some.injEq]
      constructor
      · rintro rfl
        exact ⟨rfl, hs⟩
      · exact And.left

lemma mapError_ok {ε ε' α : Type} {wrap : ε → ε'} {result : Except ε α} {a : α} :
    result.mapError wrap = .ok a ↔ result = .ok a := by
  cases result with
  | error e => constructor <;> rintro ⟨⟩
  | ok b => constructor <;> rintro ⟨⟩ <;> rfl

lemma bind_ok {ε α β : Type} {x : Except ε α} {f : α → Except ε β} {b : β} :
    x.bind f = .ok b ↔ ∃ a, x = .ok a ∧ f a = .ok b := by
  cases x with
  | error e =>
    constructor
    · rintro ⟨⟩
    · rintro ⟨_, ⟨⟩, _⟩
  | ok a =>
    constructor
    · exact fun h => ⟨a, rfl, h⟩
    · rintro ⟨_, ⟨⟩, h⟩
      exact h

lemma map_ok {ε α β : Type} {x : Except ε α} {f : α → β} {b : β} :
    x.map f = .ok b ↔ ∃ a, x = .ok a ∧ f a = b := by
  cases x with
  | error e =>
    constructor
    · rintro ⟨⟩
    · rintro ⟨_, ⟨⟩, _⟩
  | ok a =>
    constructor
    · exact fun h => ⟨a, rfl, Except.ok.inj h⟩
    · rintro ⟨_, ⟨⟩, rfl⟩
      rfl

lemma exists_of_toBool {ε α : Type} {x : Except ε α} (h : x.toBool = true) : ∃ a, x = .ok a := by
  cases x with
  | error e => cases h
  | ok a => exact ⟨a, rfl⟩

lemma exists_of_map {ε α β : Type} {x : Except ε α} {f : α → β} {b : β}
    (h : x.toOption.map f = some b) : ∃ a, x = .ok a ∧ f a = b := by
  cases x with
  | error e => cases h
  | ok a => exact ⟨a, rfl, Option.some.inj h⟩

lemma eq_of_toOption {ε α : Type} {x : Except ε α} {a : α} (h : x.toOption = some a) :
    x = .ok a := by
  cases x with
  | error e => cases h
  | ok b => exact congrArg Except.ok (Option.some.inj h)

namespace Checksum

lemma select_strong {sha256 legacy : Option String} :
    (select sha256 legacy).any isStrong = true ↔ ∃ v, sha256 = some v ∧ v ≠ "" := by
  simp only [← nonempty?_eq_some]
  unfold select
  cases nonempty? sha256 with
  | some v => simp [isStrong]
  | none => cases nonempty? legacy <;> simp [isStrong]

end Checksum

lemma Delivery.select_layered {mode : DeliveryMode} {verifiable : Bool} :
    select mode verifiable = .layered ↔ mode = .ociPhase1 ∧ verifiable = true := by
  cases mode <;> cases verifiable <;> simp [select, DeliveryMode.isOci]

namespace Action

mutual

def runs : Action → List RunAction
  | serial steps => runsOf steps
  | download _ => []
  | run action => [action]

def runsOf : List Action → List RunAction
  | [] => []
  | step :: steps => step.runs ++ runsOf steps

end

end Action

namespace ActionGraph

/-- The payload comes in one form, as layers only where these are due, and is run once. -/
structure Delivers (g : ActionGraph) (layered : Prop) (lifecycle payload : String) : Prop where
  one : (g.imageLayers.isSome ^^ g.cachedDependencies.isSome) = true
  form : g.imageLayers.isSome = true ↔ layered
  layers : g.imageLayers.isSome = true → ∃ run first second,
    g.action = .run run ∧ g.imageLayers = some [first, second] ∧
      first.layerType = .shared ∧ first.url = lifecycle ∧
      first.destinationPath = lifecycleDestination ∧
      second.layerType = .exclusive ∧ second.url = payload
  downloads : g.cachedDependencies.isSome = true → ∃ download run dependency,
    g.action = .serial [.download download, .run run] ∧ download.source = payload ∧
      g.cachedDependencies = some [dependency] ∧ dependency.source = lifecycle
  runs : ∃ run, g.action.runs = [run] ∧ run.env = g.environmentVariables

end ActionGraph

/-- What a workload puts into its graph in either form. -/
structure Cargo where
  lifecycleUri : Except ActionGraphError String
  cacheKey : String
  environment : Except ActionGraphError (List EnvironmentVariable)
  download : Action
  run : List EnvironmentVariable → Action
  layer : ImageLayer
  downloads : ∃ action, download = .download action ∧ action.source = layer.url
  runs : ∀ environment, ∃ action, run environment = .run action ∧ action.env = environment
  exclusive : layer.layerType = .exclusive

namespace Cargo

variable (c : Cargo) (delivery : Delivery)

def action (environment : List EnvironmentVariable) : Action :=
  match delivery with
  | .download => .serial [c.download, c.run environment]
  | .layered => c.run environment

def parts : GraphParts where
  action := c.environment.map (c.action delivery)
  imageLayers :=
    match delivery with
    | .download => .ok none
    | .layered => do
      return some [.shared c.cacheKey (← c.lifecycleUri) lifecycleDestination, c.layer]
  cachedDependencies :=
    match delivery with
    | .download => do return some [⟨← c.lifecycleUri, lifecycleDestination, c.cacheKey⟩]
    | .layered => .ok none
  environmentVariables := c.environment

def graph (uri : String) (environment : List EnvironmentVariable) : ActionGraph where
  action := c.action delivery environment
  imageLayers :=
    match delivery with
    | .download => none
    | .layered => some [.shared c.cacheKey uri lifecycleDestination, c.layer]
  cachedDependencies :=
    match delivery with
    | .download => some [⟨uri, lifecycleDestination, c.cacheKey⟩]
    | .layered => none
  environmentVariables := environment

variable {c delivery}

/-- A graph fails by its environment first, then by its lifecycle, in either form. -/
lemma build_eq :
    (c.parts delivery).build = c.environment.bind fun environment =>
      c.lifecycleUri.map fun uri => c.graph delivery uri environment := by
  unfold GraphParts.build parts graph
  cases c.environment with
  | error e => rfl
  | ok environment => cases delivery <;> cases c.lifecycleUri <;> rfl

lemma build_ok {g : ActionGraph} :
    (c.parts delivery).build = .ok g ↔ ∃ uri environment, c.lifecycleUri = .ok uri ∧
      c.environment = .ok environment ∧ g = c.graph delivery uri environment := by
  simp only [build_eq, bind_ok, map_ok]
  constructor
  · rintro ⟨environment, henvironment, uri, huri, rfl⟩
    exact ⟨uri, environment, huri, henvironment, rfl⟩
  · rintro ⟨uri, environment, huri, henvironment, rfl⟩
    exact ⟨environment, henvironment, uri, huri, rfl⟩

lemma graph_delivers {uri : String} {environment : List EnvironmentVariable} :
    (c.graph delivery uri environment).Delivers (delivery = .layered) uri c.layer.url := by
  obtain ⟨run, hrun, henv⟩ := c.runs environment
  cases delivery with
  | download =>
    obtain ⟨download, hd, hsource⟩ := c.downloads
    have haction : (c.graph .download uri environment).action =
        .serial [.download download, .run run] := by rw [← hd, ← hrun]; rfl
    refine ⟨rfl, ?_, ?_, ?_, ?_⟩
    · simp [graph]
    · rintro ⟨⟩
    · exact fun _ => ⟨download, run, _, haction, hsource, rfl, rfl⟩
    · exact ⟨run, by rw [haction]; rfl, henv⟩
  | layered =>
    refine ⟨rfl, ?_, ?_, ?_, ?_⟩
    · simp [graph]
    · exact fun _ => ⟨run, _, c.layer, hrun, rfl, rfl, rfl, rfl, c.exclusive, rfl⟩
    · rintro ⟨⟩
    · exact ⟨run, congrArg Action.runs hrun, henv⟩

end Cargo

namespace TaskSpec

variable {t : TaskSpec} {settings : SchedulerSettings} {environment : List EnvironmentVariable}

def cargo (t : TaskSpec) (settings : SchedulerSettings) (environment : List EnvironmentVariable) :
    Cargo where
  lifecycleUri := t.lifecycleUri settings
  cacheKey := t.cacheKey
  environment := .ok environment
  download := t.downloadDroplet
  run := t.runAction
  layer := (ImageLayer.exclusive "droplet" t.dropletUri "/home/vcap").withSha256
    (t.checksum.map (·.value))
  downloads := ⟨_, rfl, rfl⟩
  runs := fun _ => ⟨_, rfl, rfl⟩
  exclusive := rfl

lemma parts_eq :
    t.parts settings environment = (t.cargo settings environment).parts (t.delivery settings) := by
  unfold parts Cargo.parts action imageLayers cachedDependencies
  cases t.delivery settings <;> rfl

lemma delivery_layered :
    t.delivery settings = .layered ↔
      settings.deliveryMode = .ociPhase1 ∧ ∃ v, t.sha256Checksum = some v ∧ v ≠ "" := by
  rw [delivery, Delivery.select_layered, checksum, Checksum.select_strong]

end TaskSpec

namespace StagedContainer

variable {c : StagedContainer} {settings : SchedulerSettings}

def cargo (c : StagedContainer) (settings : SchedulerSettings) : Cargo where
  lifecycleUri := c.lifecycleUri settings
  cacheKey := cacheKey
  environment := c.environmentVariables settings
  download := c.downloadImage
  run := c.runAction
  layer := (ImageLayer.exclusive "docker-image" c.rootFs "/").withSha256 c.spec.image.sha256?
  downloads := ⟨_, rfl, rfl⟩
  runs := fun _ => ⟨_, rfl, rfl⟩
  exclusive := rfl

lemma parts_eq : c.parts settings = (c.cargo settings).parts (c.delivery settings) := by
  unfold parts Cargo.parts action imageLayers cachedDependencies
  cases c.delivery settings <;> rfl

lemma delivery_layered : c.delivery settings = .layered ↔ settings.deliveryMode = .ociPhase1 := by
  rw [delivery, Delivery.select_layered, and_iff_left rfl]

end StagedContainer

lemma ContainerSpec.spec_of_staged {spec : ContainerSpec} {c : StagedContainer}
    (h : spec.staged = .ok c) : c.spec = spec := by
  unfold staged at h
  split at h
  · cases h
    rfl
  · cases h

lemma ContainerSpec.build_ok {spec : ContainerSpec} {settings : SchedulerSettings}
    {g : ActionGraph} :
    spec.build settings = .ok g ↔
      ∃ c, spec.staged = .ok c ∧ (c.parts settings).build = .ok g :=
  bind_ok

/--
A task without a SHA-256 checksum is downloaded in any mode; everything else comes as layers where
the platform asks for them.
-/
theorem graphs_deliver_payload (settings : SchedulerSettings) :
    (∀ (t : TaskSpec) (environment : List EnvironmentVariable) (g : ActionGraph),
      t.build settings environment = .ok g →
      ∃ lifecycle,
        settings.lifecycleBundles.resolve .buildpack (some t.stack) = .ok lifecycle ∧ g.Delivers
          (settings.deliveryMode = .ociPhase1 ∧ ∃ v, t.sha256Checksum = some v ∧ v ≠ "")
          lifecycle t.dropletUri) ∧
    ∀ (spec : ContainerSpec) (g : ActionGraph), spec.build settings = .ok g →
      ∃ lifecycle, settings.lifecycleBundles.resolve .docker none = .ok lifecycle ∧
        g.Delivers (settings.deliveryMode = .ociPhase1) lifecycle spec.image.uri := by
  constructor
  · intro t environment g h
    rw [TaskSpec.build, TaskSpec.parts_eq] at h
    obtain ⟨uri, e, huri, -, rfl⟩ := Cargo.build_ok.mp h
    refine ⟨uri, mapError_ok.mp huri, ?_⟩
    rw [← TaskSpec.delivery_layered]
    exact Cargo.graph_delivers
  · intro spec g h
    obtain ⟨c, hc, h⟩ := ContainerSpec.build_ok.mp h
    rw [StagedContainer.parts_eq] at h
    obtain ⟨uri, e, huri, -, rfl⟩ := Cargo.build_ok.mp h
    refine ⟨uri, mapError_ok.mp huri, ?_⟩
    have hform : c.delivery settings = .layered ↔ settings.deliveryMode = .ociPhase1 :=
      StagedContainer.delivery_layered
    rw [← hform, ← ContainerSpec.spec_of_staged hc]
    exact Cargo.graph_delivers

namespace Sample

def platform (mode : DeliveryMode) : SchedulerSettings where
  lifecycleBundles := ⟨.ofList [("buildpack/slim", "slim.tgz"), ("docker", "docker.tgz")],
    some "http://files/", Url.parser⟩
  deliveryMode := mode
  defaultAppPort := 8080
  credhubUrl := none
  interpolateServiceBindings := false

def task (sha256 : String) : TaskSpec :=
  ⟨"migrate", "migrate --all", "http://droplets/shop", "slim", some sha256, some "legacy"⟩

def container : ContainerSpec := ⟨⟨none, "shop", none, none⟩, "serve", "", [], none, []⟩

end Sample

theorem graphs_deliver_payload_of_shop :
    (∃ g lifecycle,
      (Sample.task "").build (Sample.platform .ociPhase1) [⟨"DEPTH", "2"⟩] = .ok g ∧
        g.Delivers False lifecycle "http://droplets/shop") ∧
    (∃ g lifecycle, (Sample.task "abc").build (Sample.platform .ociPhase1) [] = .ok g ∧
      g.Delivers True lifecycle "http://droplets/shop") ∧
    ∃ g lifecycle, Sample.container.build (Sample.platform .unset) = .ok g ∧
      g.Delivers False lifecycle Sample.container.image.uri := by
  refine ⟨?_, ?_, ?_⟩
  · have hok : ((Sample.task "").build (Sample.platform .ociPhase1)
        [⟨"DEPTH", "2"⟩]).toBool = true := by decide +kernel
    obtain ⟨g, hg⟩ := exists_of_toBool hok
    obtain ⟨lifecycle, -, hd⟩ := (graphs_deliver_payload _).1 _ _ _ hg
    have hweak : ¬ (DeliveryMode.ociPhase1 = .ociPhase1 ∧ ∃ v, some "" = some v ∧ v ≠ "") := by
      simp
    exact ⟨g, lifecycle, hg, eq_false hweak ▸ hd⟩
  · have hok : ((Sample.task "abc").build (Sample.platform .ociPhase1) []).toBool = true := by
      decide +kernel
    obtain ⟨g, hg⟩ := exists_of_toBool hok
    obtain ⟨lifecycle, -, hd⟩ := (graphs_deliver_payload _).1 _ _ _ hg
    have hstrong : DeliveryMode.ociPhase1 = .ociPhase1 ∧ ∃ v, some "abc" = some v ∧ v ≠ "" := by
      simp
    exact ⟨g, lifecycle, hg, eq_true hstrong ▸ hd⟩
  · have hok : (Sample.container.build (Sample.platform .unset)).toBool = true := by
      decide +kernel
    obtain ⟨g, hg⟩ := exists_of_toBool hok
    obtain ⟨lifecycle, -, hd⟩ := (graphs_deliver_payload _).2 _ _ hg
    have hmode : ¬ DeliveryMode.unset = .ociPhase1 := by decide
    exact ⟨g, lifecycle, hg, eq_false hmode ▸ hd⟩

end Rollout
