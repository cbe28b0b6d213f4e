import Rollout.Config.Discovery
import Rollout.Proofs.Yaml.Block
import Rollout.Proofs.Yaml.Entries

/-! The text of a configuration line by line, and what the text of the template is read as. -/

namespace Rollout.Config

open Yaml

section Lines

/-- The lines of a configuration above the URL of a file server. -/
def linesAbove (c : Config) : List Line :=
  ⟨[], 0, "lifecycle_bundles", none⟩ ::
    c.lifecycleBundles.entries.map fun (key, path) => ⟨[], 2, key, some path⟩

def serverLine (url : String) : Line := ⟨[], 0, "file_server_url", some url⟩

def linesBelow (c : Config) : List Line := [
  ⟨[" Set to \"oci-phase-1\" to deliver droplets and lifecycles as image layers",
    " image_delivery_mode: \"\""], 0, "default_app_port", some (toString c.defaultAppPort.toNat)⟩,
  ⟨[" credhub_api:", "   internal_url:", "     env: CREDHUB_INTERNAL_URL"], 0,
    "credential_references", none⟩,
  ⟨[], 2, "interpolate_service_bindings",
    some (if c.interpolateServiceBindings then "true" else "false")⟩,
  ⟨[], 0, "deployments", none⟩,
  ⟨[], 2, "max_retained_per_app", some (toString c.maxRetainedPerApp)⟩]

def lines (c : Config) : List Line :=
  c.linesAbove ++ serverLine (c.fileServerUrl.getD "") :: c.linesBelow

lemma join_toList {α : Type} (f : α → String) (as : List α) :
    (String.join (as.map f)).toList = as.flatMap fun a => (f a).toList := by
  simp [String.toList_join, List.flatMap_map]

set_option maxRecDepth 4000 in
lemma text_eq_lines (c : Config) : c.text.toList = c.lines.flatMap Line.text := by
  have hbundles : ∀ e : String × String, ("  " ++ e.1 ++ ": " ++ e.2 ++ "\n").toList =
      Line.text ⟨[], 2, e.1, some e.2⟩ := by
    intro e
    simp [Line.text, Line.behind, Scanner.commentLines]
  unfold text lines linesAbove linesBelow
  simp only [String.toList_append, join_toList, hbundles, List.flatMap_append, List.flatMap_cons,
    List.flatMap_map]
  simp [Line.text, Line.behind, Scanner.commentLines, serverLine]

lemma put_lines (c : Config) : c.lines.foldr Line.put (0, []) = (0, c.text.toList) := by
  have hleft : ∀ l ∈ c.lines, l.comments = [] ∨ l.column = 0 := by
    simp [lines, linesAbove, serverLine, linesBelow, or_imp, forall_and]
    rintro _ _ _ _ rfl
    exact .inl rfl
  have hput : c.lines.flatMap Line.text ++ [] = (c.lines.foldr Line.put (0, [])).2 :=
    Scanner.texts_put hleft (0, [])
  rw [text_eq_lines, ← List.append_nil (c.lines.flatMap Line.text), hput]
  rfl

end Lines

section Template

/-- The template with another URL. -/
def served (url : String) : Config := { template with fileServerUrl := some url }

lemma template_bundles : template.lifecycleBundles.entries = [
    ("buildpack/cflinuxfs4", "buildpack_app_lifecycle/buildpack_app_lifecycle.tgz"),
    ("docker", "docker_app_lifecycle/docker_app_lifecycle.tgz")] := by
  decide +kernel

lemma wellFormed_above : ∀ l ∈ template.linesAbove, l.WellFormed := by
  rw [linesAbove, template_bundles]
  decide +kernel

lemma wellFormed_below : ∀ l ∈ template.linesBelow, l.WellFormed := by
  decide +kernel

lemma isKey_server : IsKey "file_server_url" := by decide +kernel

variable {url : String}

lemma lines_served :
    (served url).lines = template.linesAbove ++ serverLine url :: template.linesBelow := rfl

lemma wellFormed_lines (h : PlainToken url.toList) : ∀ l ∈ (served url).lines, l.WellFormed := by
  have hserver : (serverLine url).WellFormed := by
    refine ⟨isKey_server, ?_, by simp [serverLine], .inl rfl⟩
    rintro _ ⟨⟩
    exact h
  exact List.forall_mem_append.mpr
    ⟨wellFormed_above, List.forall_mem_cons.mpr ⟨hserver, wellFormed_below⟩⟩

lemma isChain_lines : (served url).lines.IsChain Line.Before := by
  rw [lines_served, linesAbove, template_bundles]
  simp [serverLine, linesBelow, Line.Before]

/-- The tokens in front of the URL. -/
def tokensAbove : List Token := [
  .blockMappingStart, .key, .scalar "lifecycle_bundles" .plain, .value, .blockMappingStart,
  .key, .scalar "buildpack/cflinuxfs4" .plain, .value,
  .scalar "buildpack_app_lifecycle/buildpack_app_lifecycle.tgz" .plain,
  .key, .scalar "docker" .plain, .value,
  .scalar "docker_app_lifecycle/docker_app_lifecycle.tgz" .plain, .blockEnd,
  .key, .scalar "file_server_url" .plain, .value]

def tokensBelow : List Token := [
  .key, .scalar "default_app_port" .plain, .value, .scalar "8080" .plain,
  .key, .scalar "credential_references" .plain, .value, .blockMappingStart,
  .key, .scalar "interpolate_service_bindings" .plain, .value, .scalar "false" .plain, .blockEnd,
  .key, .scalar "deployments" .plain, .value, .blockMappingStart,
  .key, .scalar "max_retained_per_app" .plain, .value, .scalar "100" .plain, .blockEnd,
  .blockEnd, .streamEnd]

def servedTokens (url : String) : List Token := tokensAbove ++ .scalar url .plain :: tokensBelow

lemma tokens_lines :
    (Token.streamEnd :: (((served url).lines.foldl Line.push ([], [])).1.map (fun _ => .blockEnd) ++
      ((served url).lines.foldl Line.push ([], [])).2)).reverse = servedTokens url := by
  have hport : toString template.defaultAppPort.toNat = "8080" := by decide
  have hretained : toString template.maxRetainedPerApp = "100" := by decide
  rw [lines_served, linesBelow, hport, hretained, linesAbove, template_bundles]
  simp [Line.push, Scanner.enter, Scanner.unrollTo, serverLine, servedTokens, tokensAbove,
    tokensBelow]
  rfl

lemma tokens?_served (hprintable : ∀ c ∈ (served url).text.toList, isPrintable c = true)
    (h : PlainToken url.toList) : tokens? (served url).text = some (servedTokens url) := by
  have hlast : ∀ l ∈ (served url).lines.getLast?, l.value.isSome = true := by
    rw [lines_served, List.getLast?_append_of_ne_nil _ (by simp)]
    simp [linesBelow]
  rw [Scanner.tokens?_lines hprintable (wellFormed_lines h) isChain_lines hlast (put_lines _),
    tokens_lines]

def bundleEntries : List (Node × Node) := [
  (.plain "buildpack/cflinuxfs4", .plain "buildpack_app_lifecycle/buildpack_app_lifecycle.tgz"),
  (.plain "docker", .plain "docker_app_lifecycle/docker_app_lifecycle.tgz")]

def servedEntries (url : String) : List (Node × Node) := [
  (.plain "lifecycle_bundles", .mapping none bundleEntries),
  (.plain "file_server_url", .plain url),
  (.plain "default_app_port", .plain "8080"),
  (.plain "credential_references", .mapping none [
    (.plain "interpolate_service_bindings", .plain "false")]),
  (.plain "deployments", .mapping none [(.plain "max_retained_per_app", .plain "100")])]

def servedDocument (url : String) : Document := ⟨some (.mapping none (servedEntries url)), []⟩

lemma document_served : Parser.document (servedTokens url) = some (servedDocument url) := rfl

lemma optional?_plain {d : Document} {s : String} :
    d.optional? d.text? (.plain s) =
      some (if s.isEmpty || isNull s then none else some s) := by
  by_cases h : (s.isEmpty || isNull s) = true
  · simp [Document.optional?, Document.resolve, Node.plain, Scalar.absent?, h]
  · simp [Document.optional?, Document.resolve, Node.plain, Scalar.absent?, Document.text?, h]

lemma ofDocument?_served (h : (url.isEmpty || isNull url) = false) :
    ofDocument? (servedDocument url) = some (served url) := by
  have hserver : (servedDocument url).optional? (servedDocument url).text? (.plain url) =
      some (some url) := by
    rw [optional?_plain, h]
    rfl
  have hrest : ofDocument? (servedDocument url) =
      ((servedDocument url).optional? (servedDocument url).text? (.plain url)).bind fun server =>
        some { template with fileServerUrl := server } := by
    rfl
  rw [hrest, hserver]
  rfl

lemma printable_served : (∀ c ∈ (served url).text.toList, isPrintable c = true) ↔
    ∀ c ∈ url.toList, isPrintable c = true := by
  have habove : (template.linesAbove.flatMap Line.text).all isPrintable = true := by
    rw [linesAbove, template_bundles]
    decide +kernel
  have hbelow : (template.linesBelow.flatMap Line.text).all isPrintable = true := by
    decide +kernel
  have hkey : "file_server_url: ".toList.all isPrintable = true := by decide +kernel
  have hserver : (serverLine url).text = "file_server_url: ".toList ++ (url.toList ++ ['\n']) := by
    simp [Line.text, serverLine, Line.behind, Scanner.commentLines]
  rw [text_eq_lines, lines_served, List.flatMap_append, List.flatMap_cons, hserver]
  simp only [List.forall_mem_append]
  constructor
  · rintro ⟨-, ⟨-, hurl, -⟩, -⟩
    exact hurl
  · intro hurl
    exact ⟨List.all_eq_true.mp habove, ⟨List.all_eq_true.mp hkey, hurl, by simp [isPrintable]⟩,
      List.all_eq_true.mp hbelow⟩

lemma put_server (url : String) :
    ∃ t, (serverLine url :: template.linesBelow).foldr Line.put (0, []) =
      (0, "file_server_url".toList ++ ':' :: ' ' :: (url.toList ++ '\n' :: '#' :: t)) := by
  have hbelow : ∃ t, template.linesBelow.foldr Line.put (0, []) = (0, '#' :: t) := ⟨_, rfl⟩
  obtain ⟨t, hbelow⟩ := hbelow
  refine ⟨t, ?_⟩
  rw [List.foldr_cons, hbelow]
  simp [serverLine, Line.put, Line.behind, Scanner.commentLines]

/-- The scanner comes to the URL whatever it is. -/
lemma leads_server (url : String) : ∃ (c : Cursor) (t : List Char),
    c.rest = ' ' :: (url.toList ++ '\n' :: '#' :: t) ∧
      Scanner.Leads (.start (served url).text.toList)
        ⟨c, tokensAbove.reverse, [0], [none], false⟩ := by
  obtain ⟨t, hserver⟩ := put_server url
  have hput := put_lines (served url)
  rw [lines_served, List.foldr_append, hserver] at hput
  have hchain : template.linesAbove.IsChain Line.Before := by
    rw [linesAbove, template_bundles]
    simp [Line.Before]
  have hlast : ∀ l ∈ template.linesAbove.getLast?, l.Above
      (0, "file_server_url".toList ++ ':' :: ' ' :: (url.toList ++ '\n' :: '#' :: t)) := by
    rw [linesAbove, template_bundles]
    simp [Line.Above, AtText, isBlank, isBreak]
  obtain ⟨c, hrest, hcolumn, habove⟩ : ∃ c : Cursor,
      c.rest = "file_server_url".toList ++ ':' :: ' ' :: (url.toList ++ '\n' :: '#' :: t) ∧
        c.column = 0 ∧ Scanner.Leads (.start (served url).text.toList)
          ⟨c, (template.linesAbove.foldl Line.push ([], [])).2,
            (template.linesAbove.foldl Line.push ([], [])).1, [none], true⟩ :=
    Scanner.leads_lines wellFormed_above hchain hlast (congrArg Prod.snd hput).symm
      (congrArg Prod.fst hput).symm
  have hkey : Scanner.Leads ⟨c, (template.linesAbove.foldl Line.push ([], [])).2,
      (template.linesAbove.foldl Line.push ([], [])).1, [none], true⟩ _ :=
    Scanner.leads_key isKey_server.toPlainToken isKey_server.length_le rfl hrest
      (Scanner.atDocumentMarker_key isKey_server.toPlainToken isKey_server.undotted hrest)
  have htokens : (Scanner.enter 0 (template.linesAbove.foldl Line.push ([], [])).1
      (template.linesAbove.foldl Line.push ([], [])).2) = ([0], tokensAbove.reverse.drop 3) := by
    rw [linesAbove, template_bundles]
    simp [Line.push, Scanner.enter, Scanner.unrollTo, tokensAbove]
  rw [hcolumn, htokens] at hkey
  refine ⟨_, t, ?_, habove.trans hkey⟩
  rw [Cursor.skipMany_eq, hrest, ← List.drop_drop, List.drop_left]
  rfl

end Template

end Rollout.Config
