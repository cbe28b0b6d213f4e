import Rollout.Proofs.Config.Coverage
import Rollout.Proofs.Environment
import Rollout.Proofs.Sequence
import Rollout.Proofs.Text.Trim

/-! Which configurations yield settings, and where these have every bundle. -/

namespace Rollout

def UrlParser.IsUrl (urls : UrlParser) (text : String) : Prop := ∃ url, urls.parse text = .ok url

/-- What a value stands for in an environment. -/
inductive EnvValue.Denotes (env : Environment) : EnvValue → String → Prop
  | literal {text : String} : Denotes env (.literal text) text
  | found {var value : String} {default : Option String} : env.Finds var value →
      Denotes env (.fromEnv var default) value
  | fallback {var text : String} : (∀ value, ¬ env.Finds var value) →
      Denotes env (.fromEnv var (some text)) text

def UrlParser.ServerOf (urls : UrlParser) : Option String → Option String → Prop :=
  Option.Rel fun text url => urls.parse text = .ok url

/-- Where a bundle is: at its own URL, or as a path on the file server. -/
inductive UrlParser.LocatedAt (urls : UrlParser) (server : Option String) (bundle : String) :
    String → Prop
  | absolute : urls.IsUrl bundle → LocatedAt urls server bundle bundle
  | relative {url : String} {base path : List Char} : ¬ urls.IsUrl bundle → server = some url →
      Text.StrippedEnd (· == '/') url.toList base → Text.Stripped (· == '/') bundle.toList path →
      LocatedAt urls server bundle (String.ofList base ++ "/v1/static/" ++ String.ofList path)

namespace Config

/-- Without a file server every bundle has to be a URL. -/
def Fetchable (c : Config) (urls : UrlParser) (server : Option String) : Prop :=
  server = none → ∀ entry ∈ c.lifecycleBundles.entries, urls.IsUrl entry.2

/-- The settings of a configuration in an environment, or the first fault that there is. -/
inductive Yields (c : Config) (urls : UrlParser) (env : Environment) :
    Except ConfigError SchedulerSettings → Prop
  | badServer {text reason : String} :
      c.fileServerUrl = some text → urls.parse text = .error reason →
      Yields c urls env (.error (.invalid ("file_server_url " ++ text ++ ": " ++ reason)))
  | relativeBundle {key bundle : String} {ahead behind : List (String × String)} :
      c.fileServerUrl = none → c.lifecycleBundles.entries = ahead ++ (key, bundle) :: behind →
      (∀ entry ∈ ahead, urls.IsUrl entry.2) → ¬ urls.IsUrl bundle →
      Yields c urls env (.error (.invalid ("lifecycle bundle " ++ bundle ++
        " is a relative path but no file_server_url is configured")))
  | missingVariable {var : String} {server : Option String} :
      urls.ServerOf c.fileServerUrl server → c.Fetchable urls server →
      c.credhubUrl = some (.fromEnv var none) → (∀ value, ¬ env.Finds var value) →
      Yields c urls env (.error (.missingEnvVar var))
  | settings {server : Option String} {broker : Option String} :
      urls.ServerOf c.fileServerUrl server → c.Fetchable urls server →
      Option.Rel (EnvValue.Denotes env) c.credhubUrl broker →
      Yields c urls env (.ok {
        lifecycleBundles := ⟨c.lifecycleBundles, server, urls⟩
        deliveryMode := c.imageDeliveryMode
        defaultAppPort := c.defaultAppPort
        credhubUrl := broker
        interpolateServiceBindings := c.interpolateServiceBindings })

end Config

lemma UrlParser.accepts_iff {urls : UrlParser} {text : String} :
    urls.accepts text = true ↔ urls.IsUrl text := by
  rw [accepts, IsUrl]
  cases urls.parse text <;> simp [Except.toOption]

namespace LifecycleBundles

variable {b : LifecycleBundles} {bundle uri : String} {located : List (String × String)}
variable {e : LifecycleError}

lemma bundleUri_ok : b.bundleUri bundle = .ok uri ↔ b.urls.LocatedAt b.fileServer bundle uri := by
  rw [bundleUri]
  constructor
  · intro h
    split at h
    · next habsolute =>
      obtain rfl := Except.ok.inj h
      exact .absolute (UrlParser.accepts_iff.mp habsolute)
    · next hrelative =>
      split at h
      · next url hurl =>
        obtain rfl := Except.ok.inj h
        exact .relative (mt UrlParser.accepts_iff.mpr hrelative) hurl (Text.strippedEnd_iff.mpr rfl)
          (Text.stripped_iff.mpr rfl)
      · cases h
  · intro h
    cases h with
    | absolute habsolute => rw [if_pos (UrlParser.accepts_iff.mpr habsolute)]
    | relative hrelative hurl hbase hpath =>
      obtain rfl := Text.strippedEnd_iff.mp hbase
      obtain rfl := Text.stripped_iff.mp hpath
      rw [if_neg (mt UrlParser.accepts_iff.mp hrelative), hurl]
      rfl

lemma bundleUri_error : b.bundleUri bundle = .error e ↔
    ¬ b.urls.IsUrl bundle ∧ b.fileServer = none ∧ e = .noFileServer bundle := by
  rw [bundleUri, ← UrlParser.accepts_iff]
  split
  · next habsolute => simp [habsolute]
  · next hrelative =>
    split
    · next hurl => simp [hurl]
    · next hnone => simp [hrelative, hnone, eq_comm]

def locate (b : LifecycleBundles) (entry : String × String) :
    Except LifecycleError (String × String) :=
  (b.bundleUri entry.2).map fun uri => (entry.1, uri)

lemma entries_eq : b.entries = b.bundles.entries.mapM b.locate := rfl

variable {entry place : String × String} {table : List (String × String)}

lemma locate_ok : b.locate entry = .ok place ↔
    place.1 = entry.1 ∧ b.urls.LocatedAt b.fileServer entry.2 place.2 := by
  rw [locate, map_ok, ← bundleUri_ok]
  constructor
  · rintro ⟨uri, huri, rfl⟩
    exact ⟨rfl, huri⟩
  · rintro ⟨hkey, huri⟩
    exact ⟨_, huri, Prod.ext hkey.symm rfl⟩

lemma entries_ok : b.entries = .ok located ↔ List.Forall₂
    (fun entry place => place.1 = entry.1 ∧ b.urls.LocatedAt b.fileServer entry.2 place.2)
    b.bundles.entries located := by
  simp only [entries_eq, mapM_ok, locate_ok]

lemma locate_error : b.locate entry = .error e ↔
    ¬ b.urls.IsUrl entry.2 ∧ b.fileServer = none ∧ e = .noFileServer entry.2 := by
  rw [locate, ← bundleUri_error]
  cases b.bundleUri entry.2 with
  | ok uri => exact ⟨nofun, nofun⟩
  | error e' => rw [Except.map, Except.error.injEq, Except.error.injEq]

lemma exists_locate : (∃ place, b.locate entry = .ok place) ↔
    (b.fileServer = none → b.urls.IsUrl entry.2) := by
  cases h : b.locate entry with
  | ok place =>
    refine ⟨fun _ hnone => ?_, fun _ => ⟨place, rfl⟩⟩
    by_contra hrelative
    cases h.symm.trans (locate_error.mpr ⟨hrelative, hnone, rfl⟩)
  | error e =>
    obtain ⟨hrelative, hnone, -⟩ := locate_error.mp h
    exact ⟨nofun, fun habsolute => (hrelative (habsolute hnone)).elim⟩

lemma exists_mapM_locate : (∃ located, table.mapM b.locate = .ok located) ↔
    (b.fileServer = none → ∀ entry ∈ table, b.urls.IsUrl entry.2) := by
  simp only [exists_mapM, exists_locate]
  exact ⟨fun h hnone entry hentry => h entry hentry hnone,
    fun h entry hentry hnone => h hnone entry hentry⟩

lemma entries_error : b.entries = .error e ↔ ∃ ahead key bundle behind,
    b.bundles.entries = ahead ++ (key, bundle) :: behind ∧ (∀ entry ∈ ahead, b.urls.IsUrl entry.2) ∧
      ¬ b.urls.IsUrl bundle ∧ b.fileServer = none ∧ e = .noFileServer bundle := by
  rw [entries_eq, mapM_error]
  constructor
  · rintro ⟨ahead, ⟨key, bundle⟩, behind, located, htable, hahead, herror⟩
    obtain ⟨hrelative, hnone, rfl⟩ := locate_error.mp herror
    exact ⟨ahead, key, bundle, behind, htable, exists_mapM_locate.mp ⟨located, hahead⟩ hnone,
      hrelative, hnone, rfl⟩
  · rintro ⟨ahead, key, bundle, behind, htable, hurls, hrelative, hnone, rfl⟩
    obtain ⟨located, hahead⟩ := exists_mapM_locate.mpr fun _ : b.fileServer = none => hurls
    exact ⟨ahead, (key, bundle), behind, located, htable, hahead,
      locate_error.mpr ⟨hrelative, hnone, rfl⟩⟩

end LifecycleBundles

namespace EnvValue

variable {env : Environment} {value : EnvValue} {text var : String}

lemma resolve_ok : value.resolve env = .ok text ↔ Denotes env value text := by
  constructor
  · intro h
    cases value with
    | literal _ =>
      obtain rfl := Except.ok.inj h
      exact .literal
    | fromEnv var default =>
      rw [resolve] at h
      cases hvar : env.get? var with
      | some found =>
        rw [hvar] at h
        obtain rfl := Except.ok.inj h
        exact .found (Environment.get?_eq_some.mp hvar)
      | none =>
        rw [hvar] at h
        cases default with
        | none => cases h
        | some _ =>
          obtain rfl := Except.ok.inj h
          exact .fallback (Environment.get?_eq_none.mp hvar)
  · intro h
    cases h with
    | literal => rfl
    | found hvar => rw [resolve, Environment.get?_eq_some.mpr hvar, Option.some_or]
    | fallback hvar => rw [resolve, Environment.get?_eq_none.mpr hvar, Option.none_or]

lemma resolve_error : value.resolve env = .error var ↔
    value = .fromEnv var none ∧ ∀ value, ¬ env.Finds var value := by
  constructor
  · intro h
    cases value with
    | literal _ => cases h
    | fromEnv name default =>
      rw [resolve] at h
      split at h
      · cases h
      · next hmissing =>
        obtain ⟨hname, rfl⟩ := Option.or_eq_none_iff.mp hmissing
        obtain rfl := Except.error.inj h
        exact ⟨rfl, Environment.get?_eq_none.mp hname⟩
  · rintro ⟨rfl, hvar⟩
    rw [resolve, Environment.get?_eq_none.mpr hvar, Option.none_or]

end EnvValue

namespace Config

variable {c : Config} {urls : UrlParser} {env : Environment} {server broker : Option String}
variable {x : Except ConfigError SchedulerSettings} {e : ConfigError}

lemma parseFileServer_ok {text url : String} :
    parseFileServer urls text = .ok url ↔ urls.parse text = .ok url := mapError_ok

lemma fileServer_ok : c.fileServer urls = .ok server ↔ urls.ServerOf c.fileServerUrl server := by
  rw [fileServer, UrlParser.ServerOf]
  cases c.fileServerUrl with
  | none => cases server <;> simp
  | some text => cases server <;> simp [map_ok, parseFileServer_ok]

lemma absent_of_serverOf {text : Option String} (h : urls.ServerOf text none) : text = none := by
  cases h
  rfl

lemma fileServer_error : c.fileServer urls = .error e ↔ ∃ text reason,
    c.fileServerUrl = some text ∧ urls.parse text = .error reason ∧
      e = .invalid ("file_server_url " ++ text ++ ": " ++ reason) := by
  rw [fileServer]
  cases c.fileServerUrl with
  | none => simp
  | some text =>
    cases hparse : urls.parse text <;>
      simp [parseFileServer, hparse, Except.map, Except.mapError, eq_comm]

lemma credhub_ok :
    c.credhub env = .ok broker ↔ Option.Rel (EnvValue.Denotes env) c.credhubUrl broker := by
  rw [credhub]
  cases c.credhubUrl with
  | none => cases broker <;> simp
  | some value => cases broker <;> simp [mapError_ok, map_ok, EnvValue.resolve_ok]

lemma credhub_error : c.credhub env = .error e ↔ ∃ var,
    c.credhubUrl = some (.fromEnv var none) ∧ (∀ value, ¬ env.Finds var value) ∧
      e = .missingEnvVar var := by
  rw [credhub]
  cases c.credhubUrl with
  | none => simp
  | some value =>
    simp only [Option.some.injEq, ← and_assoc, ← EnvValue.resolve_error]
    cases value.resolve env <;> simp [Except.map, Except.mapError, eq_comm]

lemma bundles_ok {b : LifecycleBundles} : c.bundles urls server = .ok b ↔
    c.Fetchable urls server ∧ b = ⟨c.lifecycleBundles, server, urls⟩ := by
  have hfetchable : (∃ located, LifecycleBundles.entries ⟨c.lifecycleBundles, server, urls⟩ =
      .ok located) ↔ c.Fetchable urls server := LifecycleBundles.exists_mapM_locate
  rw [← hfetchable, bundles]
  cases hentries : LifecycleBundles.entries ⟨c.lifecycleBundles, server, urls⟩ with
  | ok located => simp [eq_comm]
  | error fault => simp

lemma bundles_error : c.bundles urls server = .error e ↔ ∃ fault,
    LifecycleBundles.entries ⟨c.lifecycleBundles, server, urls⟩ = .error fault ∧
      e = .invalid fault.message := by
  rw [bundles]
  cases LifecycleBundles.entries ⟨c.lifecycleBundles, server, urls⟩ <;> simp [eq_comm]

lemma settings_eq : c.settings urls env = (c.fileServer urls).bind fun server =>
    (c.bundles urls server).bind fun bundles => (c.credhub env).bind fun broker => .ok {
      lifecycleBundles := bundles
      deliveryMode := c.imageDeliveryMode
      defaultAppPort := c.defaultAppPort
      credhubUrl := broker
      interpolateServiceBindings := c.interpolateServiceBindings } := rfl

lemma settings_iff : c.settings urls env = x ↔ c.Yields urls env x := by
  rw [settings_eq]
  constructor
  · intro h
    cases x with
    | error e =>
      rcases bind_error.mp h with hserver | ⟨server, hserver, h⟩
      · obtain ⟨text, reason, htext, hparse, rfl⟩ := fileServer_error.mp hserver
        exact .badServer htext hparse
      have hserver : urls.ServerOf c.fileServerUrl server := fileServer_ok.mp hserver
      rcases bind_error.mp h with hbundles | ⟨bundles, hbundles, h⟩
      · obtain ⟨fault, hentries, rfl⟩ := bundles_error.mp hbundles
        obtain ⟨ahead, key, bundle, behind, htable, hurls, hrelative, hnone, rfl⟩ :=
          LifecycleBundles.entries_error.mp hentries
        obtain rfl : server = none := hnone
        exact .relativeBundle (absent_of_serverOf hserver) htable hurls hrelative
      obtain ⟨hfetchable, rfl⟩ := bundles_ok.mp hbundles
      rcases bind_error.mp h with hbroker | ⟨_, -, ⟨⟩⟩
      obtain ⟨var, hvalue, hvar, rfl⟩ := credhub_error.mp hbroker
      exact .missingVariable hserver hfetchable hvalue hvar
    | ok settings =>
      obtain ⟨server, hserver, h⟩ := bind_ok.mp h
      obtain ⟨bundles, hbundles, h⟩ := bind_ok.mp h
      obtain ⟨broker, hbroker, h⟩ := bind_ok.mp h
      obtain ⟨hfetchable, rfl⟩ := bundles_ok.mp hbundles
      obtain rfl := Except.ok.inj h
      exact .settings (fileServer_ok.mp hserver) hfetchable (credhub_ok.mp hbroker)
  · intro h
    cases h with
    | badServer htext hparse => rw [fileServer_error.mpr ⟨_, _, htext, hparse, rfl⟩]; rfl
    | relativeBundle hnone htable hurls hrelative =>
      have hserver : c.fileServer urls = .ok none := by rw [fileServer, hnone]
      have hentries : LifecycleBundles.entries ⟨c.lifecycleBundles, none, urls⟩ = .error _ :=
        LifecycleBundles.entries_error.mpr ⟨_, _, _, _, htable, hurls, hrelative, rfl, rfl⟩
      rw [hserver, Except.bind, bundles_error.mpr ⟨_, hentries, rfl⟩]
      rfl
    | missingVariable hserver hfetchable hvalue hvar =>
      rw [fileServer_ok.mpr hserver, Except.bind, bundles_ok.mpr ⟨hfetchable, rfl⟩, Except.bind,
        credhub_error.mpr ⟨_, hvalue, hvar, rfl⟩]
      rfl
    | settings hserver hfetchable hbroker =>
      rw [fileServer_ok.mpr hserver, Except.bind, bundles_ok.mpr ⟨hfetchable, rfl⟩, Except.bind,
        credhub_ok.mpr hbroker]
      rfl

end Config

namespace Command

variable {s : Surroundings} {c : Config}

lemma Surroundings.check_ok : (∃ text, s.check c = .ok text) ↔
    (∃ settings, c.settings s.urls s.env = .ok settings) ∧ c.lifecycleBundles.entries ≠ [] := by
  unfold check
  cases hs : c.settings s.urls s.env with
  | error e =>
    constructor
    · rintro ⟨_, ⟨⟩⟩
    · rintro ⟨⟨_, ⟨⟩⟩, -⟩
  | ok settings =>
    obtain ⟨htable, -, located, hlocated⟩ := Config.settings_bundles hs
    simp only [bind, Except.bind, htable, hlocated, Dictionary.isEmpty]
    cases c.lifecycleBundles.entries with
    | nil =>
      constructor
      · rintro ⟨_, ⟨⟩⟩
      · rintro ⟨-, hne⟩
        exact (hne rfl).elim
    | cons entry table =>
      exact ⟨fun _ => ⟨⟨settings, rfl⟩, List.cons_ne_nil _ _⟩, fun _ => ⟨_, rfl⟩⟩

lemma run_check {args : List String} {i : Invocation} (hargs : parse args = some (.invoke i))
    (hcheck : i.action = .check) (hconfig : s.loadConfig i.config = .ok c) :
    (run s args).exitCode = 0 ↔ ∃ text, s.check c = .ok text := by
  have hinvoke : s.invoke i = (s.check c).map fun text => ⟨text, none⟩ := by
    rw [Surroundings.invoke, hcheck]
    simp only [hconfig, bind, Except.bind]
    cases s.check c <;> rfl
  rw [run, hargs]
  simp only [hinvoke]
  cases s.check c with
  | error e => exact ⟨nofun, nofun⟩
  | ok text => exact ⟨fun _ => ⟨text, rfl⟩, fun _ => rfl⟩

end Command

namespace Dictionary

variable {α β : Type} (d : Dictionary α)

lemma bytes_ordered : d.entries.Pairwise fun a b => Text.bytes a.1 < Text.bytes b.1 :=
  d.ordered.imp Text.bytes_lt_iff.mpr

lemma bytes_ordered_of_keys {table : List (String × β)}
    (h : List.Forall₂ (fun entry place => place.1 = entry.1) d.entries table) :
    table.Pairwise fun a b => Text.bytes a.1 < Text.bytes b.1 := by
  have hkeys : table.map (fun place => Text.bytes place.1) =
      d.entries.map fun entry => Text.bytes entry.1 := by
    rw [← List.forall₂_eq_eq_eq, List.forall₂_map_left_iff, List.forall₂_map_right_iff]
    exact h.flip.imp fun _ _ => congrArg Text.bytes
  have hordered := List.pairwise_map.mpr d.bytes_ordered
  exact List.pairwise_map.mp (hkeys ▸ hordered)

end Dictionary

/--
The settings or the first fault, of the file server before the bundles and of these before the
variable. Settings locate every bundle, in the order of the keys, and are what a check needs besides
a bundle. A name without an equals sign finds the variable that it names, if the value is text.
-/
theorem settings_obtained (urls : UrlParser) (c : Config) (env : Environment) :
    (c.lifecycleBundles.entries.Pairwise fun a b => Text.bytes a.1 < Text.bytes b.1) ∧
    (∀ x, c.settings urls env = x ↔ c.Yields urls env x) ∧
    (∀ settings, c.settings urls env = .ok settings → ∃ located,
      settings.lifecycleBundles.entries = .ok located ∧
      (located.Pairwise fun a b => Text.bytes a.1 < Text.bytes b.1) ∧
      List.Forall₂ (fun entry place => place.1 = entry.1 ∧
        urls.LocatedAt settings.lifecycleBundles.fileServer entry.2 place.2)
        c.lifecycleBundles.entries located) ∧
    (∀ s : Command.Surroundings, s.urls = urls → s.env = env →
      ((∃ text, s.check c = .ok text) ↔
        (∃ settings, c.settings urls env = .ok settings) ∧ c.lifecycleBundles.entries ≠ []) ∧
      ∀ args i, Command.parse args = some (.invoke i) → i.action = .check →
        s.loadConfig i.config = .ok c →
        ((Command.run s args).exitCode = 0 ↔
          (∃ settings, c.settings urls env = .ok settings) ∧
            c.lifecycleBundles.entries ≠ [])) ∧
    ∀ name text, name ≠ "" → '\x00' ∉ name.toList → '=' ∉ name.toList →
      (env.Finds name text ↔ env.value? name = some (Text.bytes text)) := by
  refine ⟨c.lifecycleBundles.bytes_ordered, fun x => Config.settings_iff, ?_, ?_, ?_⟩
  · intro settings h
    obtain ⟨htable, hurls, located, hlocated⟩ := Config.settings_bundles h
    have hplaces := LifecycleBundles.entries_ok.mp hlocated
    rw [htable, hurls] at hplaces
    have hkeys : List.Forall₂ (fun entry place => place.1 = entry.1) c.lifecycleBundles.entries
        located := hplaces.imp fun _ _ => And.left
    exact ⟨located, hlocated, c.lifecycleBundles.bytes_ordered_of_keys hkeys, hplaces⟩
  · rintro s rfl rfl
    refine ⟨Command.Surroundings.check_ok, fun args i hargs hcheck hconfig => ?_⟩
    rw [Command.run_check hargs hcheck hconfig, Command.Surroundings.check_ok]
  · intro name text hne hnul hsign
    rw [← Environment.bytes?_eq_some, Environment.bytes?_eq_value? hne hnul hsign]

namespace Sample

def brokerByName : Config := { Config.template with
  lifecycleBundles := .ofList [("docker", "/docker.tgz"), ("buildpack/b", "https://bundles/b.tgz")]
  fileServerUrl := some "http://files:80//"
  credhubUrl := some (.fromEnv "BROKER" (some "https://broker")) }

/-- A folder with the configuration, and the variable of the broker set to nothing. -/
def brokerless : Command.Surroundings where
  urls := Url.parser
  env := [Environment.entry "BROKER" ""]
  files name := if name = Config.fileName then .text
    ("lifecycle_bundles:\n  docker: /docker.tgz\n  buildpack/b: https://bundles/b.tgz\n" ++
      "file_server_url: http://files:80//\n" ++
      "credhub_api:\n  internal_url:\n    env: BROKER\n    default: https://broker\n") else .missing
  folder := "shop"

end Sample

open Sample in
theorem settings_obtained_of_brokerless : ∃ settings located,
    brokerByName.settings Url.parser brokerless.env = .ok settings ∧
      settings.credhubUrl = some "" ∧
      settings.lifecycleBundles.entries = .ok located ∧
      located = [("buildpack/b", "https://bundles/b.tgz"),
        ("docker", "http://files/v1/static/docker.tgz")] ∧
      (Command.run brokerless ["check"]).exitCode = 0 ∧
      brokerless.env.Finds "BROKER" "" := by
  obtain ⟨-, hyields, hlocated, hcheck, hfinds⟩ :=
    settings_obtained Url.parser brokerByName brokerless.env
  have hfound : brokerless.env.Finds "BROKER" "" :=
    (hfinds _ _ (by decide) (by decide) (by decide)).mpr (by decide +kernel)
  have hurl : Url.parser.parse "http://files:80//" = .ok "http://files//" :=
    eq_of_toOption (by decide +kernel)
  have hsettings := (hyields _).mpr (.settings (.some hurl) nofun (.some (.found hfound)))
  obtain ⟨located, hentries, -⟩ := hlocated _ hsettings
  have hconfig : brokerless.loadConfig none = .ok brokerByName := eq_of_toOption (by decide +kernel)
  have hrun := ((hcheck brokerless rfl rfl).2 ["check"] ⟨false, none, .check⟩ rfl rfl hconfig).mpr
    ⟨⟨_, hsettings⟩, by decide⟩
  have hplaces : LifecycleBundles.entries
      ⟨brokerByName.lifecycleBundles, some "http://files//", Url.parser⟩ =
        .ok [("buildpack/b", "https://bundles/b.tgz"),
          ("docker", "http://files/v1/static/docker.tgz")] := eq_of_toOption (by decide +kernel)
  exact ⟨_, located, hsettings, rfl, hentries, Except.ok.inj (hentries.symm.trans hplaces), hrun,
    hfound⟩

namespace Sample

def brokerOf (var : String) (default : Option String) : Config :=
  { Config.template with credhubUrl := some (.fromEnv var default) }

/-- The variable of the broker is set to a byte that begins no character. -/
def garbled : Environment := [Text.bytes "BROKER=" ++ [0xff]]

/-- One variable, whose value has an equals sign in it. -/
def nested : Environment := [Environment.entry "A" "B=c"]

end Sample

open Sample in
/--
A variable that is set to no text is missing, and gives way to a default. A name with an equals sign
is found within the value of another variable.
-/
theorem variable_misread :
    (garbled.value? "BROKER" = some [0xff] ∧
      (brokerOf "BROKER" none).settings Url.parser garbled = .error (.missingEnvVar "BROKER") ∧
      ∃ settings, (brokerOf "BROKER" (some "https://broker")).settings Url.parser garbled =
        .ok settings ∧ settings.credhubUrl = some "https://broker") ∧
    nested.value? "A=B" = none ∧
      ∃ settings, (brokerOf "A=B" none).settings Url.parser nested = .ok settings ∧
        settings.credhubUrl = some "c" := by
  have hurl : Url.parser.parse "http://file-server.service.cf.internal:8080" =
      .ok "http://file-server.service.cf.internal:8080/" := eq_of_toOption (by decide +kernel)
  have hmissing : ∀ value, ¬ garbled.Finds "BROKER" value :=
    Environment.get?_eq_none.mp (by decide +kernel)
  have hfound : nested.Finds "A=B" "c" :=
    ⟨by decide, by decide, [], [], by decide +kernel, nofun⟩
  refine ⟨⟨by decide +kernel, ?_, ?_⟩, by decide +kernel, ?_⟩
  · exact Config.settings_iff.mpr (.missingVariable (.some hurl) nofun rfl hmissing)
  · have hsettings := Config.Yields.settings (c := brokerOf "BROKER" (some "https://broker"))
      (.some hurl) nofun (.some (.fallback hmissing))
    exact ⟨_, Config.settings_iff.mpr hsettings, rfl⟩
  · have hsettings := Config.Yields.settings (c := brokerOf "A=B" none)
      (.some hurl) nofun (.some (.found hfound))
    exact ⟨_, Config.settings_iff.mpr hsettings, rfl⟩

end Rollout
