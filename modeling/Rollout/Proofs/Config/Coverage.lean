import Rollout.Command.Run
import Rollout.Proofs.Graph.Workload
import Rollout.Proofs.Ports

/-! A configuration that yields settings locates every bundle that a workload may ask for. -/

namespace Rollout

section Lookup

variable {ε α β : Type}

lemma lookup_mapM {f : α → Except ε β} {entries : List (String × α)}
    {located : List (String × β)}
    (h : (entries.mapM fun e => (f e.2).map (e.1, ·)) = .ok located) (key : String) :
    (∃ a b, entries.lookup key = some a ∧ f a = .ok b ∧ located.lookup key = some b) ∨
      (entries.lookup key = none ∧ located.lookup key = none) := by
  induction entries generalizing located with
  | nil =>
    cases h
    exact .inr ⟨rfl, rfl⟩
  | cons entry entries ih =>
    obtain ⟨name, a⟩ := entry
    rw [List.mapM_cons] at h
    obtain ⟨first, hfirst, h⟩ := bind_ok.mp h
    obtain ⟨rest, hrest, h⟩ := bind_ok.mp h
    obtain ⟨b, hb, rfl⟩ := map_ok.mp hfirst
    cases h
    by_cases hkey : key = name
    · subst hkey
      exact .inl ⟨a, b, List.lookup_cons_self, hb, List.lookup_cons_self⟩
    · have hne : (key == name) = false := beq_false_of_ne hkey
      simpa only [List.lookup_cons, hne] using ih hrest

lemma outcome_iff {result : Except ε α} {entry : Option β} {e : ε}
    (h : (entry.isSome = true ∧ ∃ a, result = .ok a) ∨ (entry = none ∧ result = .error e)) :
    ((∃ a, result = .ok a) ↔ entry.isSome = true) ∧ (result = .error e ↔ entry = none) := by
  rcases h with ⟨hsome, a, rfl⟩ | ⟨rfl, rfl⟩
  · exact ⟨⟨fun _ => hsome, fun _ => ⟨a, rfl⟩⟩, nofun, fun hnone => by simp [hnone] at hsome⟩
  · exact ⟨⟨nofun, nofun⟩, fun _ => rfl, fun _ => rfl⟩

end Lookup

namespace LifecycleBundles

variable {b : LifecycleBundles} {located : List (String × String)}

/-- Where all bundles have a location, a bundle is at the one listed, or it is not in the table. -/
lemma resolve_cases (h : b.entries = .ok located) (type : LifecycleType) (stack : Option String) :
    (∃ uri, (b.bundles.get? (type.bundleKey stack)).isSome = true ∧
      located.lookup (type.bundleKey stack) = some uri ∧ b.resolve type stack = .ok uri) ∨
    (b.bundles.get? (type.bundleKey stack) = none ∧
      b.resolve type stack = .error (.invalidStack (type.bundleKey stack))) := by
  unfold resolve
  rcases lookup_mapM h (type.bundleKey stack) with ⟨bundle, uri, hb, huri, hl⟩ | ⟨hb, -⟩
  · have hget : b.bundles.get? (type.bundleKey stack) = some bundle := hb
    exact .inl ⟨uri, by rw [hget]; rfl, hl, by simp only [hget, huri]⟩
  · have hget : b.bundles.get? (type.bundleKey stack) = none := hb
    exact .inr ⟨hget, by simp only [hget]⟩

end LifecycleBundles

lemma Config.settings_bundles {urls : UrlParser} {config : Config} {env : Environment}
    {s : SchedulerSettings} (h : config.settings urls env = .ok s) :
    s.lifecycleBundles.bundles = config.lifecycleBundles ∧ s.lifecycleBundles.urls = urls ∧
      ∃ located, s.lifecycleBundles.entries = .ok located := by
  obtain ⟨fileServer, -, h⟩ := bind_ok.mp h
  obtain ⟨bundles, hbundles, h⟩ := bind_ok.mp h
  obtain ⟨credhub, -, h⟩ := bind_ok.mp h
  cases h
  unfold Config.bundles at hbundles
  dsimp only at hbundles
  split at hbundles
  · rename_i located hlocated
    cases hbundles
    exact ⟨rfl, rfl, located, hlocated⟩
  · cases hbundles

/-- No port is set, and the image declares ports of which none is a TCP port. -/
def Portless (explicit : List UInt16) (metadata : ExecutionMetadata) : Prop :=
  explicit = [] ∧ ∃ declared, metadata.ports = some declared ∧ declared ≠ [] ∧
    ∀ port ∈ declared, port.protocol ≠ "tcp"

lemma resolvePorts_error {explicit : List UInt16} {metadata : ExecutionMetadata} {default : UInt16}
    {e : PortError} : resolvePorts explicit metadata default = .error e ↔
      Portless explicit metadata := by
  rw [resolvePorts_iff]
  constructor
  · intro h
    cases h with
    | unreachable hunset hdeclared hnone =>
      cases hports : metadata.ports with
      | none =>
        rw [hports] at hdeclared
        exact absurd rfl hdeclared
      | some declared =>
        rw [hports, Option.getD_some] at hdeclared hnone
        exact ⟨hunset, declared, hports, hdeclared, hnone⟩
  · rintro ⟨hunset, declared, hports, hdeclared, hnone⟩
    cases e
    rw [hports, Option.getD_some]
    exact .unreachable hunset hdeclared hnone

namespace StagedContainer

variable {c : StagedContainer} {s : SchedulerSettings}

lemma environment_cases :
    (Portless c.spec.ports c.metadata ∧
      c.environmentVariables s = .error (.ports .noTcpPorts)) ∨
    (¬ Portless c.spec.ports c.metadata ∧ ∃ environment,
      c.environmentVariables s = .ok environment) := by
  unfold environmentVariables portVariables ports
  cases hports : resolvePorts c.spec.ports c.metadata s.defaultAppPort with
  | error e =>
    cases e
    exact .inl ⟨resolvePorts_error.mp hports, rfl⟩
  | ok ports =>
    refine .inr ⟨fun hnone => ?_, _, rfl⟩
    rw [resolvePorts_error (e := .noTcpPorts) |>.mpr hnone] at hports
    cases hports

end StagedContainer

namespace Workload

variable {w : Workload} {s : SchedulerSettings} {c : Cargo} {located : List (String × String)}
variable {e : ActionGraphError}

lemma build_refused (hc : w.cargo s = .ok c) (he : c.environment = .error e) :
    w.build s = .error e := by
  rw [build_eq, hc]
  simp only [Except.bind, Cargo.build_eq, he]

lemma build_cases (hlocated : s.lifecycleBundles.entries = .ok located) (hc : w.cargo s = .ok c)
    {environment : List EnvironmentVariable} (henvironment : c.environment = .ok environment) :
    ((s.lifecycleBundles.bundles.get? w.bundleKey).isSome = true ∧ ∃ g, w.build s = .ok g) ∨
      (s.lifecycleBundles.bundles.get? w.bundleKey = none ∧
        w.build s = .error (.lifecycle (.invalidStack w.bundleKey))) := by
  obtain ⟨-, huri⟩ := cargo_bundle hc
  have hbuild : w.build s = c.lifecycleUri.map fun uri =>
      c.graph (w.delivery s) uri environment := by
    rw [build_eq, hc]
    simp only [Except.bind, Cargo.build_eq, henvironment]
  rcases LifecycleBundles.resolve_cases hlocated w.lifecycle w.stack? with
    ⟨uri, hsome, -, hresolve⟩ | ⟨hnone, hresolve⟩
  · exact .inl ⟨hsome, _, by rw [hbuild, huri, hresolve]; rfl⟩
  · exact .inr ⟨hnone, by rw [hbuild, huri, hresolve]; rfl⟩

end Workload

section Builds

variable {s : SchedulerSettings} {located : List (String × String)}

lemma TaskSpec.build_cases (hlocated : s.lifecycleBundles.entries = .ok located) (t : TaskSpec)
    (environment : List EnvironmentVariable) :
    ((s.lifecycleBundles.bundles.get? ("buildpack/" ++ t.stack)).isSome = true ∧
      ∃ g, t.build s environment = .ok g) ∨
    (s.lifecycleBundles.bundles.get? ("buildpack/" ++ t.stack) = none ∧
      t.build s environment = .error (.lifecycle (.invalidStack ("buildpack/" ++ t.stack)))) :=
  Workload.build_cases (w := .task t environment) hlocated rfl (Eq.refl (Except.ok environment))

/-- The metadata counts first, then the ports, and the lifecycle last. -/
lemma ContainerSpec.build_cases (hlocated : s.lifecycleBundles.entries = .ok located)
    (spec : ContainerSpec) :
    (∃ e, ExecutionMetadata.parse spec.executionMetadata = .error e ∧
      spec.build s = .error (.metadata e)) ∨
    ∃ metadata, ExecutionMetadata.parse spec.executionMetadata = .ok metadata ∧
      ((Portless spec.ports metadata ∧ spec.build s = .error (.ports .noTcpPorts)) ∨
        ¬ Portless spec.ports metadata ∧
          ((s.lifecycleBundles.bundles.get? "docker").isSome = true ∧ (∃ g, spec.build s = .ok g) ∨
            s.lifecycleBundles.bundles.get? "docker" = none ∧
              spec.build s = .error (.lifecycle (.invalidStack "docker")))) := by
  cases hparse : ExecutionMetadata.parse spec.executionMetadata with
  | error e =>
    have hstaged : spec.staged = .error (.metadata e) := by rw [staged, hparse]
    exact .inl ⟨e, rfl, by rw [build, hstaged]; rfl⟩
  | ok metadata =>
    have hstaged : spec.staged = .ok ⟨spec, metadata⟩ := by rw [staged, hparse]
    have hc : (Workload.container spec).cargo s = .ok (StagedContainer.cargo ⟨spec, metadata⟩ s) :=
      Workload.container_cargo_ok.mpr ⟨_, hstaged, rfl⟩
    refine .inr ⟨metadata, rfl, ?_⟩
    rcases StagedContainer.environment_cases (c := ⟨spec, metadata⟩) (s := s) with
      ⟨hports, he⟩ | ⟨hports, environment, henvironment⟩
    · exact .inl ⟨hports, Workload.build_refused hc he⟩
    · exact .inr ⟨hports, Workload.build_cases hlocated hc henvironment⟩

lemma Workload.bundle_located (hlocated : s.lifecycleBundles.entries = .ok located) {w : Workload}
    {g : ActionGraph} (h : w.build s = .ok g) :
    ∃ uri, located.lookup w.bundleKey = some uri ∧ g.bundles = [(w.cacheKey, uri)] := by
  obtain ⟨uri, hresolve, hgraph⟩ := bundles_of_build h
  rcases LifecycleBundles.resolve_cases hlocated w.lifecycle w.stack? with
    ⟨uri', -, hlookup, hlocation⟩ | ⟨-, herror⟩
  · obtain rfl := Except.ok.inj (hlocation.symm.trans hresolve)
    exact ⟨uri', hlookup, hgraph⟩
  · cases herror.symm.trans hresolve

lemma Workload.kind_of_error (hlocated : s.lifecycleBundles.entries = .ok located) {w : Workload}
    {e : ActionGraphError} (h : w.build s = .error e) : e.kind ≠ .missingFileServer := by
  cases w with
  | task t environment =>
    rcases t.build_cases hlocated environment with ⟨-, g, hok⟩ | ⟨-, herror⟩
    · cases h.symm.trans hok
    · cases h.symm.trans herror
      nofun
  | container spec =>
    rcases spec.build_cases hlocated with ⟨_, -, herror⟩ |
      ⟨metadata, -, ⟨-, herror⟩ | ⟨-, ⟨-, g, hok⟩ | ⟨-, herror⟩⟩⟩
    · cases h.symm.trans herror
      nofun
    · cases h.symm.trans herror
      nofun
    · cases h.symm.trans hok
    · cases h.symm.trans herror
      nofun

end Builds

namespace Command.Surroundings

lemma check_located {s : Surroundings} {config : Config} {settings : SchedulerSettings}
    {located : List (String × String)} (hs : config.settings s.urls s.env = .ok settings)
    (hlocated : settings.lifecycleBundles.entries = .ok located) {key uri : String}
    (hkey : located.lookup key = some uri) : ∃ lines : List String,
      s.check config = .ok (String.join (lines.map (· ++ "\n"))) ∧
      "Lifecycle " ++ key ++ ": " ++ uri ∈ lines := by
  have hne : settings.lifecycleBundles.bundles.isEmpty = false := by
    rcases lookup_mapM hlocated key with ⟨bundle, -, hbundle, -⟩ | ⟨-, hnone⟩
    · rw [Dictionary.isEmpty, List.isEmpty_eq_false_iff]
      rintro hempty
      rw [hempty] at hbundle
      cases hbundle
    · rw [hnone] at hkey
      cases hkey
  have hmem : (key, uri) ∈ located := by
    obtain ⟨before, after, rfl, -⟩ := List.lookup_eq_some_iff.mp hkey
    exact List.mem_append_right _ List.mem_cons_self
  unfold check
  rw [hs]
  simp only [bind, Except.bind, hne, hlocated]
  exact ⟨_, rfl, List.mem_append_right _ (List.mem_map.mpr ⟨(key, uri), hmem, rfl⟩)⟩

end Command.Surroundings

/--
Under a configuration that yields settings a workload fails by what it asks for, a stack or a port,
and never by where a bundle is. The bundle that it fetches is at the place that the check prints.
-/
theorem checked_config_builds {urls : UrlParser} {config : Config} {env : Environment}
    {settings : SchedulerSettings} (h : config.settings urls env = .ok settings)
    (mode : DeliveryMode) :
    (∀ (t : TaskSpec) (environment : List EnvironmentVariable),
      ((∃ g, t.build (settings.inMode mode) environment = .ok g) ↔
        (config.lifecycleBundles.get? ("buildpack/" ++ t.stack)).isSome = true) ∧
      (t.build (settings.inMode mode) environment =
          .error (.lifecycle (.invalidStack ("buildpack/" ++ t.stack))) ↔
        config.lifecycleBundles.get? ("buildpack/" ++ t.stack) = none)) ∧
    (∀ (spec : ContainerSpec) (metadata : ExecutionMetadata),
      ExecutionMetadata.parse spec.executionMetadata = .ok metadata →
      (spec.build (settings.inMode mode) = .error (.ports .noTcpPorts) ↔
        Portless spec.ports metadata) ∧
      (¬ Portless spec.ports metadata →
        ((∃ g, spec.build (settings.inMode mode) = .ok g) ↔
          (config.lifecycleBundles.get? "docker").isSome = true) ∧
        (spec.build (settings.inMode mode) = .error (.lifecycle (.invalidStack "docker")) ↔
          config.lifecycleBundles.get? "docker" = none))) ∧
    (∀ (w : Workload) (e : ActionGraphError), w.build (settings.inMode mode) = .error e →
      e.kind ≠ .missingFileServer) ∧
    ∀ (w : Workload) (g : ActionGraph), w.build (settings.inMode mode) = .ok g →
      ∃ located uri, settings.lifecycleBundles.entries = .ok located ∧
        located.lookup w.bundleKey = some uri ∧ g.bundles = [(w.cacheKey, uri)] ∧
        ∀ s : Command.Surroundings, s.urls = urls → s.env = env → ∃ lines : List String,
          s.check config = .ok (String.join (lines.map (· ++ "\n"))) ∧
          "Lifecycle " ++ w.bundleKey ++ ": " ++ uri ∈ lines := by
  obtain ⟨hbundles, -, located, hlocated⟩ := Config.settings_bundles h
  have hmode : (settings.inMode mode).lifecycleBundles.entries = .ok located := hlocated
  rw [← hbundles]
  refine ⟨?_, ?_, ?_, ?_⟩
  · exact fun t environment => outcome_iff (t.build_cases hmode environment)
  · intro spec metadata hmetadata
    rcases spec.build_cases hmode with ⟨_, herror, -⟩ |
      ⟨metadata', hparse, ⟨hports, hbuild⟩ | ⟨hports, hbuild⟩⟩
    · cases hmetadata.symm.trans herror
    · cases hmetadata.symm.trans hparse
      exact ⟨⟨fun _ => hports, fun _ => hbuild⟩, absurd hports⟩
    · cases hmetadata.symm.trans hparse
      refine ⟨⟨fun hrefused => ?_, fun h => absurd h hports⟩, fun _ => outcome_iff hbuild⟩
      rcases hbuild with ⟨-, g, hok⟩ | ⟨-, herror⟩
      · cases hrefused.symm.trans hok
      · cases hrefused.symm.trans herror
  · exact fun w e => Workload.kind_of_error hmode
  · intro w g hg
    obtain ⟨uri, hlookup, hgraph⟩ := Workload.bundle_located hmode hg
    refine ⟨located, uri, hlocated, hlookup, hgraph, fun s hurls hs => ?_⟩
    exact Command.Surroundings.check_located (hurls ▸ hs ▸ h) hlocated hlookup

namespace Sample

/-- A container whose image declares a UDP port alone. -/
def udpOnly : ContainerSpec := { container with executionMetadata := "[[[53,\"udp\"]]]" }

end Sample

theorem checked_config_builds_of_template :
    ∃ settings, Config.template.settings Url.parser [] = .ok settings ∧
      (Sample.task "abc").build (settings.inMode .ociPhase1) [] =
        .error (.lifecycle (.invalidStack "buildpack/slim")) ∧
      Sample.udpOnly.build (settings.inMode .ociPhase1) = .error (.ports .noTcpPorts) ∧
      ActionGraphError.kind (.lifecycle (.invalidStack "buildpack/slim")) ≠ .missingFileServer ∧
      ∃ g located uri, Sample.container.build (settings.inMode .ociPhase1) = .ok g ∧
        settings.lifecycleBundles.entries = .ok located ∧ located.lookup "docker" = some uri ∧
        g.bundles = [((Workload.container Sample.container).cacheKey, uri)] ∧
        ∃ lines : List String,
          Command.Surroundings.check ⟨Url.parser, [], fun _ => .missing, "shop"⟩ Config.template =
            .ok (String.join (lines.map (· ++ "\n"))) ∧
          "Lifecycle " ++ (Workload.container Sample.container).bundleKey ++ ": " ++ uri ∈
            lines := by
  have hok : (Config.template.settings Url.parser []).toBool = true := by decide +kernel
  obtain ⟨settings, hsettings⟩ := exists_of_toBool hok
  obtain ⟨htasks, hcontainers, hkinds, hgraphs⟩ := checked_config_builds hsettings .ociPhase1
  have hslim : (Sample.task "abc").build (settings.inMode .ociPhase1) [] =
      .error (.lifecycle (.invalidStack "buildpack/slim")) :=
    (htasks (Sample.task "abc") []).2.mpr (by decide +kernel)
  have hudp : ExecutionMetadata.parse Sample.udpOnly.executionMetadata =
      .ok ⟨some [⟨53, "udp"⟩], none⟩ := eq_of_toOption (by decide +kernel)
  have hnone : ExecutionMetadata.parse Sample.container.executionMetadata = .ok .empty :=
    eq_of_toOption (by decide +kernel)
  have hports : ¬ Portless Sample.container.ports .empty := by
    rintro ⟨-, declared, ⟨⟩, -⟩
  refine ⟨settings, hsettings, hslim, ?_, ?_, ?_⟩
  · exact (hcontainers Sample.udpOnly _ hudp).1.mpr ⟨rfl, _, rfl, by simp, by simp⟩
  · exact hkinds (.task (Sample.task "abc") []) _ hslim
  · obtain ⟨g, hg⟩ := ((hcontainers Sample.container _ hnone).2 hports).1.mpr (by decide +kernel)
    obtain ⟨located, uri, hlocated, hlookup, hbundles, hchecked⟩ := hgraphs (.container _) g hg
    exact ⟨g, located, uri, hg, hlocated, hlookup, hbundles, hchecked _ rfl rfl⟩

end Rollout
