import Rollout.Proofs.Graph.Delivery
import Rollout.Proofs.Json.Text
import Rollout.Proofs.Ports
import Rollout.Proofs.Text.Decimal

/-! The variables that a container finds, and its ports among them. -/

namespace Rollout

namespace SchedulerSettings

variable {s : SchedulerSettings}

/-- The variables that tell a workload of the credential broker, if it is to know of one. -/
inductive Offers (s : SchedulerSettings) : List EnvironmentVariable → Prop
  | broker {url value : String} : s.credhubUrl = some url → url ≠ "" →
      s.interpolateServiceBindings = true →
      Json.parse? value = some (.object [("credhub-uri", .string url)]) →
      Offers s [⟨"VCAP_PLATFORM_OPTIONS", value⟩]
  | nothing : (∀ url, s.credhubUrl = some url → url ≠ "" → s.interpolateServiceBindings = false) →
      Offers s []

lemma offers_platformOptions : s.Offers s.platformOptions.toList := by
  rw [platformOptions]
  split
  · next url hurl =>
    obtain ⟨hurl, hne⟩ := nonempty?_eq_some.mp hurl
    split
    · next hon => exact .broker hurl hne hon (Json.parse?_compact_member _ _)
    · next hoff => exact .nothing fun _ _ _ => Bool.eq_false_iff.mpr hoff
  · next hnone =>
    refine .nothing fun url hurl hne => ?_
    rw [nonempty?_eq_some.mpr ⟨hurl, hne⟩] at hnone
    cases hnone

end SchedulerSettings

namespace StagedContainer

variable {c : StagedContainer} {s : SchedulerSettings} {ports : List UInt16}

lemma environmentVariables_ok {main : UInt16} {rest : List UInt16}
    (h : c.ports s = .ok (main :: rest)) :
    c.environmentVariables s = .ok (c.spec.environment ++
      ⟨"PORT", toString main.toNat⟩ :: s.platformOptions.toList) := by
  rw [environmentVariables, portVariables, h]
  simp [Except.map, Except.mapError]

lemma environmentVariables_error {e : PortError} (h : c.ports s = .error e) :
    c.environmentVariables s = .error (.ports e) := by
  rw [environmentVariables, portVariables, h]
  rfl

end StagedContainer

def Action.RunsIn (action : Action) (environment : List EnvironmentVariable) : Prop :=
  ∃ run, action.runs = [run] ∧ run.env = environment

namespace Cargo

variable {c : Cargo} {delivery : Delivery} {environment : List EnvironmentVariable}

lemma action_runsIn : (c.action delivery environment).RunsIn environment := by
  have hgraph : (c.graph delivery "" environment).Delivers _ _ _ := graph_delivers
  exact hgraph.runs

lemma exists_build_iff (h : c.environment = .ok environment) :
    (∃ g, (c.parts delivery).build = .ok g) ↔ ∃ uri, c.lifecycleUri = .ok uri := by
  simp only [build_ok]
  constructor
  · rintro ⟨_, uri, _, huri, -⟩
    exact ⟨uri, huri⟩
  · rintro ⟨uri, huri⟩
    exact ⟨_, uri, environment, huri, h, rfl⟩

end Cargo

namespace ContainerSpec

variable {spec : ContainerSpec} {c : StagedContainer} {s : SchedulerSettings}
variable {environment : List EnvironmentVariable}

/-- The container `c` of `spec` has this `environment`, and so has all that is built of it. -/
structure Furnished (spec : ContainerSpec) (c : StagedContainer) (s : SchedulerSettings)
    (environment : List EnvironmentVariable) : Prop where
  container : c.environmentVariables s = .ok environment
  action : ∃ action, c.action s = .ok action ∧ action.RunsIn environment
  built : (∃ g, spec.build s = .ok g) ↔ ∃ uri, s.lifecycleBundles.resolve .docker none = .ok uri
  graph : ∀ g, spec.build s = .ok g →
    g.environmentVariables = environment ∧ g.action.RunsIn environment

lemma build_of_staged (h : spec.staged = .ok c) :
    spec.build s = ((c.cargo s).parts (c.delivery s)).build := by
  rw [build, h, ← StagedContainer.parts_eq]
  rfl

lemma furnished (hc : spec.staged = .ok c) (h : c.environmentVariables s = .ok environment) :
    spec.Furnished c s environment where
  container := h
  action := by
    have haction : c.action s = (c.environmentVariables s).map ((c.cargo s).action (c.delivery s)) :=
      congrArg GraphParts.action StagedContainer.parts_eq
    rw [h] at haction
    exact ⟨_, haction, Cargo.action_runsIn⟩
  built := by
    rw [build_of_staged hc, Cargo.exists_build_iff h]
    exact exists_congr fun _ => mapError_ok
  graph := by
    intro g hg
    rw [build_of_staged hc] at hg
    obtain ⟨uri, found, -, hfound, rfl⟩ := Cargo.build_ok.mp hg
    obtain rfl : environment = found := Except.ok.inj (h.symm.trans hfound)
    exact ⟨rfl, Cargo.action_runsIn⟩

lemma build_refused_by (hc : spec.staged = .ok c) {e : ActionGraphError}
    (h : c.environmentVariables s = .error e) : spec.build s = .error e := by
  have he : (c.cargo s).environment = .error e := h
  rw [build_of_staged hc, Cargo.build_eq, he]
  rfl

lemma staged_of_parse {metadata : ExecutionMetadata}
    (h : ExecutionMetadata.parse spec.executionMetadata = .ok metadata) :
    spec.staged = .ok ⟨spec, metadata⟩ := by
  rw [staged, h]

end ContainerSpec

open ExecutionMetadata (Declares declares_iff)

/--
A container listens on its own ports, or on the TCP ports that its image declares, or on the default
if there are none of either. The first of them is the `PORT` in its environment, which goes on from
that of the process and ends with the credential broker. Without ports there is no environment.
-/
theorem containers_furnished (s : SchedulerSettings) {spec : ContainerSpec}
    {metadata : ExecutionMetadata}
    (h : ExecutionMetadata.parse spec.executionMetadata = .ok metadata) :
    ∃ (c : StagedContainer) (declared : List PortSpec), spec.staged = .ok c ∧
      (∀ other, Declares spec.executionMetadata other ↔ other = declared) ∧
      (∀ found, c.ports s = found ↔ Listens spec.ports declared s.defaultAppPort found) ∧
      (∀ e, c.ports s = .error e →
        c.environmentVariables s = .error (.ports e) ∧ spec.build s = .error (.ports e)) ∧
      ∀ ports, c.ports s = .ok ports → ∃ main rest options,
        ports = main :: rest ∧
        Text.readNat? (toString main.toNat).toList = some main.toNat ∧
        s.Offers options ∧
        spec.Furnished c s
          (spec.environment ++ ⟨"PORT", toString main.toNat⟩ :: options) := by
  have hc : spec.staged = .ok ⟨spec, metadata⟩ := ContainerSpec.staged_of_parse h
  refine ⟨⟨spec, metadata⟩, metadata.ports.getD [], hc, fun other => declares_iff h, ?_, ?_, ?_⟩
  · exact fun found => resolvePorts_iff
  · intro e he
    have henvironment := StagedContainer.environmentVariables_error he
    exact ⟨henvironment, ContainerSpec.build_refused_by hc henvironment⟩
  · intro ports hports
    obtain ⟨main, rest, rfl⟩ := List.exists_cons_of_ne_nil (resolvePorts_iff.mp hports).ne_nil
    exact ⟨main, rest, s.platformOptions.toList, rfl, Text.readNat?_toString _,
      SchedulerSettings.offers_platformOptions,
      ContainerSpec.furnished hc (StagedContainer.environmentVariables_ok hports)⟩

namespace Sample

/-- The URL of the broker has a quote, a backslash, a control character and a letter beyond ASCII. -/
def brokered : SchedulerSettings :=
  { platform .unset with
    credhubUrl := some "http://broker/\x22\\\x01é"
    interpolateServiceBindings := true }

def declaring (ports : String) : ContainerSpec :=
  { container with
    executionMetadata := "\x7b\x22ports\x22:" ++ ports ++ "\x7d"
    environment := [⟨"DEPTH", "2"⟩] }

end Sample

theorem containers_furnished_of_shop :
    let mixed := Sample.declaring
      "[[53,\x22udp\x22],[\x229090\x22,\x22tcp\x22],[80,\x22tcp\x22],[9090,\x22tcp\x22]]"
    let udp := Sample.declaring "[[53,\x22udp\x22]]"
    ExecutionMetadata.parse mixed.executionMetadata =
      .ok ⟨some [⟨53, "udp"⟩, ⟨9090, "tcp"⟩, ⟨80, "tcp"⟩, ⟨9090, "tcp"⟩], none⟩ ∧
    ExecutionMetadata.parse udp.executionMetadata = .ok ⟨some [⟨53, "udp"⟩], none⟩ ∧
    (∃ c g value, mixed.staged = .ok c ∧ c.ports Sample.brokered = .ok [9090, 80, 9090] ∧
      mixed.build Sample.brokered = .ok g ∧
      g.environmentVariables =
        [⟨"DEPTH", "2"⟩, ⟨"PORT", "9090"⟩, ⟨"VCAP_PLATFORM_OPTIONS", value⟩] ∧
      g.action.RunsIn g.environmentVariables ∧
      Json.parse? value =
        some (.object [("credhub-uri", .string "http://broker/\x22\\\x01é")])) ∧
    udp.build Sample.brokered = .error (.ports .noTcpPorts) := by
  intro mixed udp
  have hmixed : ExecutionMetadata.parse mixed.executionMetadata =
      .ok ⟨some [⟨53, "udp"⟩, ⟨9090, "tcp"⟩, ⟨80, "tcp"⟩, ⟨9090, "tcp"⟩], none⟩ :=
    eq_of_toOption (by decide +kernel)
  have hudp : ExecutionMetadata.parse udp.executionMetadata = .ok ⟨some [⟨53, "udp"⟩], none⟩ :=
    eq_of_toOption (by decide +kernel)
  refine ⟨hmixed, hudp, ?_, ?_⟩
  · obtain ⟨c, declared, hc, hdeclares, hports, -, hok⟩ :=
      containers_furnished Sample.brokered hmixed
    obtain rfl := (hdeclares _).mp ((declares_iff hmixed).mpr rfl)
    have hfound : c.ports Sample.brokered = .ok [9090, 80, 9090] :=
      (hports _).mpr (.tcp rfl (by decide))
    obtain ⟨main, rest, options, hmain, -, hoffers, hfurnished⟩ := hok _ hfound
    obtain ⟨rfl, -⟩ := List.cons.inj hmain
    have hlifecycle : (Sample.brokered.lifecycleBundles.resolve .docker none).toBool = true := by
      decide +kernel
    obtain ⟨g, hg⟩ := hfurnished.built.mpr (exists_of_toBool hlifecycle)
    obtain ⟨henvironment, hruns⟩ := hfurnished.graph g hg
    cases hoffers with
    | broker hurl _ _ hvalue =>
      obtain rfl := Option.some.inj hurl
      exact ⟨c, g, _, hc, hfound, hg, henvironment, henvironment ▸ hruns, hvalue⟩
    | nothing hnone =>
      exact absurd (hnone _ rfl (by decide)) (by decide)
  · obtain ⟨c, declared, -, hdeclares, hports, hrefused, -⟩ :=
      containers_furnished Sample.brokered hudp
    obtain rfl := (hdeclares _).mp ((declares_iff hudp).mpr rfl)
    have hfound : c.ports Sample.brokered = .error .noTcpPorts :=
      (hports _).mpr (.unreachable rfl (List.cons_ne_nil _ _) (by decide))
    exact (hrefused _ hfound).2

end Rollout
