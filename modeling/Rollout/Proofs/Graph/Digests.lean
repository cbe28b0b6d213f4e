import Rollout.Proofs.Graph.Workload
import Rollout.Proofs.ImageRef

/-! The checksums of a graph's downloads and the digests of its layers. -/

namespace Rollout

namespace Action

mutual

def downloads : Action → List DownloadAction
  | serial steps => downloadsOf steps
  | download action => [action]
  | run _ => []

def downloadsOf : List Action → List DownloadAction
  | [] => []
  | step :: steps => step.downloads ++ downloadsOf steps

end

end Action

/-- The name of an algorithm and the value by it stand together, and the value is not empty. -/
structure Paired {α : Type} (algorithm : Option α) (value : Option String) : Prop where
  both : algorithm.isSome = value.isSome
  nonempty : value ≠ some ""

lemma nonempty?_eq_none {text : Option String} :
    nonempty? text = none ↔ text = none ∨ text = some "" := by
  cases text with
  | none => simp [nonempty?]
  | some s => simp [nonempty?]

lemma Cargo.mem_downloads {c : Cargo} {delivery : Delivery} {uri : String}
    {environment : List EnvironmentVariable} {d : DownloadAction}
    (h : d ∈ (c.graph delivery uri environment).action.downloads) :
    c.download = .download d := by
  obtain ⟨run, hrun, -⟩ := c.runs environment
  obtain ⟨download, hdownload, -⟩ := c.downloads
  cases delivery with
  | download =>
    simp only [graph, action, hrun, hdownload, Action.downloads, Action.downloadsOf,
      List.append_nil, List.mem_singleton] at h
    rw [hdownload, h]
  | layered =>
    simp only [graph, action, hrun, Action.downloads, List.not_mem_nil] at h

lemma ImageLayer.paired_withSha256 {l : ImageLayer} {digest : Option String}
    (h : digest ≠ some "") :
    Paired (l.withSha256 digest).digestAlgorithm (l.withSha256 digest).digestValue :=
  ⟨Option.isSome_map, h⟩

lemma ImageLayer.digest_withSha256 {l : ImageLayer} {digest : Option String} {v : String} :
    (l.withSha256 digest).digestAlgorithm = some .sha256 ∧
      (l.withSha256 digest).digestValue = some v ↔ digest = some v := by
  constructor
  · exact And.right
  · rintro rfl
    exact ⟨rfl, rfl⟩

namespace TaskSpec

variable {t : TaskSpec} {s : SchedulerSettings} {environment : List EnvironmentVariable}

def Unknown (checksum : Option String) : Prop := checksum = none ∨ checksum = some ""

/-- What the droplet of a task is checked by: the best of the checksums that are known. -/
inductive Checks (t : TaskSpec) : Option ChecksumAlgorithm → Option String → Prop
  | sha256 {v : String} (hv : t.sha256Checksum = some v) (hne : v ≠ "") :
    Checks t (some .sha256) (some v)
  | sha1 {v : String} (hsha : Unknown t.sha256Checksum) (hv : t.dropletHash = some v)
    (hne : v ≠ "") : Checks t (some .sha1) (some v)
  | none (hsha : Unknown t.sha256Checksum) (hold : Unknown t.dropletHash) : Checks t none none

lemma checks_checksum :
    t.Checks (t.checksum.map (·.algorithm)) (t.checksum.map (·.value)) := by
  unfold checksum Checksum.select
  cases hsha : nonempty? t.sha256Checksum with
  | some v =>
    obtain ⟨hv, hne⟩ := nonempty?_eq_some.mp hsha
    exact .sha256 hv hne
  | none =>
    cases hold : nonempty? t.dropletHash with
    | some v =>
      obtain ⟨hv, hne⟩ := nonempty?_eq_some.mp hold
      exact .sha1 (nonempty?_eq_none.mp hsha) hv hne
    | none => exact .none (nonempty?_eq_none.mp hsha) (nonempty?_eq_none.mp hold)

lemma Checks.paired {algorithm : Option ChecksumAlgorithm} {value : Option String}
    (h : t.Checks algorithm value) : Paired algorithm value := by
  cases h with
  | sha256 hv hne => exact ⟨rfl, fun h => hne (Option.some.inj h)⟩
  | sha1 hsha hv hne => exact ⟨rfl, fun h => hne (Option.some.inj h)⟩
  | none hsha hold => exact ⟨rfl, nofun⟩

lemma checks_download {d : DownloadAction} (h : (t.cargo s environment).download = .download d) :
    t.Checks d.checksumAlgorithm d.checksumValue := by
  cases h
  exact checks_checksum

end TaskSpec

namespace ImageRef

/-- The text names an image by its SHA-256 digest `hex`. -/
def Pins (text hex : String) : Prop :=
  ∃ before : List Char, '@' ∉ before ∧
    Text.trimWhile Text.isBlank text.toList = before ++ "@sha256:".toList ++ hex.toList

lemma pins_iff {text hex : String} {r : ImageRef} (h : parse text = .ok r) :
    Pins text hex ↔ r.digest = some ("sha256:" ++ hex) := by
  have hat : ∀ before : List Char, before ++ "@sha256:".toList ++ hex.toList =
      before ++ '@' :: ("sha256:" ++ hex).toList := by
    intro before
    rw [String.toList_append, List.append_assoc]
    rfl
  simp only [Pins, digest_of_parse h, hat]

end ImageRef

namespace Workload

variable {w : Workload} {s : SchedulerSettings} {g : ActionGraph} {c : Cargo}
variable {d : DownloadAction} {l : ImageLayer}

lemma of_mem_downloads (h : w.build s = .ok g) (hd : d ∈ g.action.downloads) :
    ∃ c, w.cargo s = .ok c ∧ c.download = .download d := by
  obtain ⟨c, uri, environment, hc, -, -, rfl⟩ := build_ok.mp h
  exact ⟨c, hc, Cargo.mem_downloads hd⟩

lemma of_mem_layers (h : w.build s = .ok g) (hl : l ∈ g.layers) : w.delivery s = .layered ∧
    ((∃ uri, l = .shared w.cacheKey uri lifecycleDestination) ∨
      ∃ c, w.cargo s = .ok c ∧ l = c.layer) := by
  obtain ⟨c, uri, environment, hc, -, -, rfl⟩ := build_ok.mp h
  obtain ⟨hlayered, rfl | rfl⟩ := Cargo.mem_layers.mp hl
  · exact ⟨hlayered, .inl ⟨uri, by rw [(cargo_bundle hc).1]⟩⟩
  · exact ⟨hlayered, .inr ⟨c, hc, rfl⟩⟩

lemma of_exclusive (h : w.build s = .ok g) (hl : l ∈ g.layers)
    (hexclusive : l.layerType = .exclusive) :
    w.delivery s = .layered ∧ ∃ c, w.cargo s = .ok c ∧ l = c.layer := by
  obtain ⟨hlayered, ⟨uri, rfl⟩ | hpayload⟩ := of_mem_layers h hl
  · cases hexclusive
  · exact ⟨hlayered, hpayload⟩

lemma paired_download (hc : w.cargo s = .ok c) (hd : c.download = .download d) :
    Paired d.checksumAlgorithm d.checksumValue := by
  cases w with
  | task spec environment =>
    cases hc
    exact (TaskSpec.checks_download hd).paired
  | container spec =>
    obtain ⟨staged, -, rfl⟩ := container_cargo_ok.mp hc
    cases hd
    exact ⟨rfl, nofun⟩

lemma paired_layer (hc : w.cargo s = .ok c) (hlayered : w.delivery s = .layered) :
    Paired c.layer.digestAlgorithm c.layer.digestValue := by
  cases w with
  | task spec environment =>
    cases hc
    obtain ⟨v, -, hne, hchecksum⟩ := TaskSpec.checksum_of_layered hlayered
    refine ImageLayer.paired_withSha256 ?_
    rw [hchecksum]
    exact fun h => hne (Option.some.inj h)
  | container spec =>
    obtain ⟨staged, -, rfl⟩ := container_cargo_ok.mp hc
    exact ImageLayer.paired_withSha256 fun h => (ImageRef.sha256?_eq_some.mp h).2 rfl

end Workload

/--
A droplet's layer goes by its SHA-256 checksum alone, while a download may go by an older hash. The
layer of an image has the digest that its reference is pinned by.
-/
theorem digests_labelled (s : SchedulerSettings) :
    (∀ (w : Workload) (g : ActionGraph), w.build s = .ok g →
      (∀ d ∈ g.action.downloads, Paired d.checksumAlgorithm d.checksumValue) ∧
      ∀ l ∈ g.layers, Paired l.digestAlgorithm l.digestValue ∧
        (l.layerType = .shared → l.digestAlgorithm = none ∧ l.digestValue = none)) ∧
    (∀ (t : TaskSpec) (environment : List EnvironmentVariable) (g : ActionGraph),
      t.build s environment = .ok g →
      (∀ d ∈ g.action.downloads, t.Checks d.checksumAlgorithm d.checksumValue) ∧
      ∀ l ∈ g.layers, l.layerType = .exclusive → ∃ v, t.sha256Checksum = some v ∧ v ≠ "" ∧
        l.digestAlgorithm = some .sha256 ∧ l.digestValue = some v) ∧
    ∀ (spec : ContainerSpec) (text : String) (g : ActionGraph),
      ImageRef.parse text = .ok spec.image → spec.build s = .ok g →
      (∀ d ∈ g.action.downloads, d.checksumAlgorithm = none ∧ d.checksumValue = none) ∧
      ∀ l ∈ g.layers, l.layerType = .exclusive → ∀ hex,
        (l.digestAlgorithm = some .sha256 ∧ l.digestValue = some hex ↔
          ImageRef.Pins text hex ∧ hex ≠ "") ∧
        (ImageRef.Pins text hex ↔ spec.image.digest = some ("sha256:" ++ hex)) ∧
        (ImageRef.Pins text hex → ∃ before, l.url = before ++ "#sha256:" ++ hex) := by
  refine ⟨?_, ?_, ?_⟩
  · intro w g h
    refine ⟨fun d hd => ?_, fun l hl => ?_⟩
    · obtain ⟨c, hc, hdownload⟩ := Workload.of_mem_downloads h hd
      exact Workload.paired_download hc hdownload
    · obtain ⟨hlayered, ⟨uri, rfl⟩ | ⟨c, hc, rfl⟩⟩ := Workload.of_mem_layers h hl
      · exact ⟨⟨rfl, nofun⟩, fun _ => ⟨rfl, rfl⟩⟩
      · refine ⟨Workload.paired_layer hc hlayered, fun hshared => ?_⟩
        cases c.exclusive.symm.trans hshared
  · intro t environment g h
    refine ⟨fun d hd => ?_, fun l hl hexclusive => ?_⟩
    · obtain ⟨c, ⟨⟩, hdownload⟩ := Workload.of_mem_downloads (w := .task t environment) h hd
      exact TaskSpec.checks_download hdownload
    · obtain ⟨hlayered, c, ⟨⟩, rfl⟩ :=
        Workload.of_exclusive (w := .task t environment) h hl hexclusive
      obtain ⟨v, hsha, hne, hchecksum⟩ := TaskSpec.checksum_of_layered hlayered
      exact ⟨v, hsha, hne, ImageLayer.digest_withSha256.mpr (by rw [hchecksum]; rfl)⟩
  · intro spec text g himage h
    refine ⟨fun d hd => ?_, fun l hl hexclusive hex => ?_⟩
    · obtain ⟨c, hc, hdownload⟩ := Workload.of_mem_downloads (w := .container spec) h hd
      obtain ⟨staged, -, rfl⟩ := Workload.container_cargo_ok.mp hc
      cases hdownload
      exact ⟨rfl, rfl⟩
    · obtain ⟨-, c, hc, rfl⟩ := Workload.of_exclusive (w := .container spec) h hl hexclusive
      obtain ⟨staged, hstaged, rfl⟩ := Workload.container_cargo_ok.mp hc
      obtain rfl := ContainerSpec.spec_of_staged hstaged
      rw [ImageRef.pins_iff himage]
      exact ⟨ImageLayer.digest_withSha256.trans ImageRef.sha256?_eq_some, Iff.rfl,
        ImageRef.uri_of_digest⟩

namespace Sample

/-- A container whose image is pinned. -/
def pinned : ContainerSpec :=
  { container with image := ⟨none, "shop", none, some "sha256:0f"⟩ }

def launcher : ImageLayer :=
  .shared "docker-lifecycle" "http://files/v1/static/docker.tgz" lifecycleDestination

def pinnedImage : ImageLayer :=
  (ImageLayer.exclusive "docker-image" "docker:///library/shop#sha256:0f" "/").withSha256
    (some "0f")

def droplet : ImageLayer :=
  (ImageLayer.exclusive "droplet" "http://droplets/shop" "/home/vcap").withSha256 (some "abc")

end Sample

theorem digests_labelled_of_shop :
    (∃ g, Workload.build (Sample.platform .ociPhase1) (.container Sample.pinned) = .ok g ∧
      g.layers = [Sample.launcher, Sample.pinnedImage] ∧
      Paired Sample.launcher.digestAlgorithm Sample.launcher.digestValue ∧
      Paired Sample.pinnedImage.digestAlgorithm Sample.pinnedImage.digestValue) ∧
    (∃ g download, (Sample.task "").build (Sample.platform .ociPhase1) [] = .ok g ∧
      g.action.downloads = [download] ∧ download.checksumValue = some "legacy" ∧
      (Sample.task "").Checks download.checksumAlgorithm download.checksumValue) ∧
    (∃ g, (Sample.task "abc").build (Sample.platform .ociPhase1) [] = .ok g ∧
      g.layers.filter (·.layerType = .exclusive) = [Sample.droplet] ∧
      Sample.droplet.digestAlgorithm = some .sha256 ∧ Sample.droplet.digestValue = some "abc") ∧
    ∃ g, Sample.pinned.build (Sample.platform .ociPhase1) = .ok g ∧
      g.layers.filter (·.layerType = .exclusive) = [Sample.pinnedImage] ∧
      Sample.pinnedImage.digestAlgorithm = some .sha256 ∧
      Sample.pinnedImage.digestValue = some "0f" := by
  have himage : ImageRef.parse " shop@sha256:0f" = .ok Sample.pinned.image := by decide
  have hpins : ImageRef.Pins " shop@sha256:0f" "0f" := ⟨"shop".toList, by decide, by decide⟩
  have hpinned : (Sample.pinned.build (Sample.platform .ociPhase1)).toOption.map
      ActionGraph.layers = some [Sample.launcher, Sample.pinnedImage] := by decide +kernel
  obtain ⟨g, hg, hlayers⟩ := exists_of_map hpinned
  have hlauncher : Sample.launcher ∈ g.layers := by simp [hlayers]
  have hpayload : Sample.pinnedImage ∈ g.layers := by simp [hlayers]
  refine ⟨?_, ?_, ?_, ?_⟩
  · have hpaired := ((digests_labelled _).1 (.container _) g hg).2
    exact ⟨g, hg, hlayers, (hpaired _ hlauncher).1, (hpaired _ hpayload).1⟩
  · have hweak : ((Sample.task "").build (Sample.platform .ociPhase1) []).toOption.map
        (·.action.downloads.map (·.checksumValue)) = some [some "legacy"] := by decide +kernel
    obtain ⟨g, hg, hdownloads⟩ := exists_of_map hweak
    obtain ⟨download, hdownload, hvalue⟩ := List.map_eq_singleton_iff.mp hdownloads
    refine ⟨g, download, hg, hdownload, hvalue, ((digests_labelled _).2.1 _ _ g hg).1 _ ?_⟩
    simp [hdownload]
  · have hstrong : ((Sample.task "abc").build (Sample.platform .ociPhase1) []).toOption.map
        (·.layers.filter (·.layerType = .exclusive)) = some [Sample.droplet] := by decide +kernel
    obtain ⟨g, hg, hexclusive⟩ := exists_of_map hstrong
    have hdroplet : Sample.droplet ∈ g.layers :=
      (List.mem_filter.mp (hexclusive ▸ List.mem_singleton_self Sample.droplet)).1
    obtain ⟨v, hv, -, halgorithm, hvalue⟩ := ((digests_labelled _).2.1 _ _ g hg).2 _ hdroplet rfl
    exact ⟨g, hg, hexclusive, halgorithm, hvalue.trans hv.symm⟩
  · have hexclusive : g.layers.filter (·.layerType = .exclusive) = [Sample.pinnedImage] := by
      rw [hlayers]
      decide +kernel
    obtain ⟨halgorithm, hvalue⟩ :=
      (((digests_labelled _).2.2 _ _ g himage hg).2 _ hpayload rfl "0f").1.mpr ⟨hpins, by decide⟩
    exact ⟨g, hg, hexclusive, halgorithm, hvalue⟩

end Rollout
