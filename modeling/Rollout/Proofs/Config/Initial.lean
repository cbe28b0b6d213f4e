import Rollout.Proofs.Config.Layout
import Rollout.Proofs.Yaml.Values
import Rollout.Url.Parser

/-! A new configuration reads back as it was meant, if the URL in it may do without quotes. -/

namespace Rollout

namespace Config

open Yaml

variable {url : String}

/-- The document behind the tokens of the URL, as far as the URL. -/
lemma document_server {first : Token} {rest : List Token} {d : Document}
    (hfirst : first = .key ∨ first = .blockMappingStart ∨ ∃ v, first = .scalar v .plain)
    (h : Parser.document (tokensAbove ++ first :: rest) = some d) :
    ∃ bundles value more,
      d.root = some (.mapping none
        ((.plain "lifecycle_bundles", bundles) :: (.plain "file_server_url", value) :: more)) ∧
      (value = .empty ∨ (∃ inner, value = .mapping none inner) ∨
        ∃ v, first = .scalar v .plain ∧ value = .plain v) := by
  have htokens : tokensAbove ++ first :: rest =
      .blockMappingStart :: (tokensAbove.tail ++ first :: rest) := rfl
  rw [htokens, Parser.document_mapping] at h
  obtain ⟨fuel, hfuel⟩ : ∃ fuel,
      4 * (tokensAbove.tail ++ first :: rest).length + 7 = fuel + 16 := by
    refine ⟨4 * rest.length + 59, ?_⟩
    simp [tokensAbove]
    omega
  obtain ⟨⟨entries, s⟩, hentries, h⟩ := Option.bind_eq_some_iff.mp h
  have habove : Parser.blockEntries (fuel + 16)
        ⟨tokensAbove.tail ++ first :: rest, Parser.standardHandles, [], 0, []⟩ =
      (Parser.blockEntries (fuel + 11 + 4)
        (Parser.State.ahead ⟨[], Parser.standardHandles, [], 0, []⟩
          (.key :: .scalar "file_server_url" .plain :: .value :: first :: rest))).bind fun p =>
          some ((.plain "lifecycle_bundles", .mapping none bundleEntries) :: p.1, p.2) := rfl
  rw [hfuel, habove] at hentries
  obtain ⟨⟨others, s'⟩, hothers, heq⟩ := Option.bind_eq_some_iff.mp hentries
  obtain ⟨value, more, rfl, hvalue⟩ := Parser.blockEntries_value hfirst hothers
  cases heq
  dsimp only at h
  split at h
  · cases h
    exact ⟨_, value, more, rfl, hvalue⟩
  · cases h

lemma server_of_ofDocument? {d : Document} {c : Config} {bundles value : Node}
    {more : List (Node × Node)}
    (hroot : d.root = some (.mapping none
      ((.plain "lifecycle_bundles", bundles) :: (.plain "file_server_url", value) :: more)))
    (h : ofDocument? d = some c) : d.optional? d.text? value = some c.fileServerUrl := by
  unfold ofDocument? at h
  obtain ⟨entries, hentries, h⟩ := Option.bind_eq_some_iff.mp h
  obtain ⟨fields, hfields, h⟩ := Option.bind_eq_some_iff.mp h
  obtain ⟨table, -, h⟩ := Option.bind_eq_some_iff.mp h
  obtain ⟨server, hserver, h⟩ := Option.bind_eq_some_iff.mp h
  obtain ⟨mode, -, h⟩ := Option.bind_eq_some_iff.mp h
  obtain ⟨port, -, h⟩ := Option.bind_eq_some_iff.mp h
  obtain ⟨credhub, -, h⟩ := Option.bind_eq_some_iff.mp h
  obtain ⟨interpolate, -, h⟩ := Option.bind_eq_some_iff.mp h
  obtain ⟨retained, -, h⟩ := Option.bind_eq_some_iff.mp h
  cases h
  rw [Document.rootEntries?, hroot] at hentries
  cases hentries
  obtain ⟨named, hnamed, hfields⟩ := Option.bind_eq_some_iff.mp hfields
  obtain ⟨rest, rfl⟩ : ∃ rest,
      named = ("lifecycle_bundles", bundles) :: ("file_server_url", value) :: rest := by
    rw [Document.named?, List.mapM_cons, List.mapM_cons] at hnamed
    obtain ⟨_, ⟨⟩, hnamed⟩ := Option.bind_eq_some_iff.mp hnamed
    obtain ⟨tail, htail, ⟨⟩⟩ := Option.bind_eq_some_iff.mp hnamed
    obtain ⟨_, ⟨⟩, htail⟩ := Option.bind_eq_some_iff.mp htail
    obtain ⟨rest, -, ⟨⟩⟩ := Option.bind_eq_some_iff.mp htail
    exact ⟨rest, rfl⟩
  have hlookup : fields.lookup "file_server_url" = some value := by
    dsimp only at hfields
    split at hfields
    · cases hfields
      rfl
    · cases hfields
  rw [withDefault, hlookup] at hserver
  exact hserver

lemma blank_or_break {c : Char} (hc : c.toNat ≤ 0x20) (hprintable : isPrintable c = true) :
    isBlank c = true ∨ isBreak c = true := by
  have hcases : c.toNat = 0x20 ∨ c.toNat = 0x09 ∨ c.toNat = 0x0A ∨ c.toNat = 0x0D := by
    simp only [isPrintable, Bool.or_eq_true, Bool.and_eq_true, beq_iff_eq, decide_eq_true_eq]
      at hprintable
    omega
  rw [← Char.ofNat_toNat c]
  rcases hcases with h | h | h | h <;> rw [h] <;> decide

lemma parse_eq_ok {text : String} {c : Config} :
    parse text = .ok c ↔ ∃ d, Yaml.parse? text = some d ∧ ofDocument? d = some c := by
  rw [← Option.bind_eq_some_iff]
  unfold parse
  cases (Yaml.parse? text).bind ofDocument? <;> simp

/-- A value that was read from below the front of a text and is all of it is plain. -/
lemma plainLine_of_isValue {g t below : List Char} (hurl : url.toList = g ++ t) (hg : IsGap g)
    (ht : t ≠ []) (h : Scanner.IsValue (t ++ '\n' :: '#' :: below) (.scalar url .plain)) :
    PlainLine url.toList := by
  rcases h with hkey | hmapping | ⟨text, htext, hread⟩
  · cases hkey
  · cases hmapping
  obtain rfl : text = url.toList := by
    cases htext
    exact String.toList_ofList.symm
  rcases hread with hnil | ⟨u, rest, hu, hfolds⟩
  · exact (ht (List.append_eq_nil_iff.mp (hurl.symm.trans hnil)).2).elim
  obtain ⟨d, -, hd, hblank, hbreak, -⟩ := hfolds.first
  cases g with
  | nil =>
    rw [List.nil_append] at hurl
    rw [← hurl] at hu
    exact plainLine_of_folds hfolds hu
  | cons b g =>
    -- What is read does not begin with a blank, so it is not the text with its gap.
    rw [hurl] at hd
    cases hd
    rcases hg d List.mem_cons_self with h | h <;> simp [h] at hblank hbreak

/-- If the configuration reads back, the URL is the value that was read where it was written. -/
lemma isValue_of_parse {g t : List Char} (hurl : url.toList = g ++ t) (hg : IsGap g)
    (ht : AtLetter t) (hprintable : ∀ c ∈ url.toList, isPrintable c = true)
    (h : parse (served url).text = .ok (served url)) :
    ∃ below, Scanner.IsValue (t ++ '\n' :: '#' :: below) (.scalar url .plain) := by
  obtain ⟨d, hd, hconfig⟩ := parse_eq_ok.mp h
  obtain ⟨tokens, htokens, hdocument⟩ := Option.bind_eq_some_iff.mp hd
  obtain ⟨c, below, hrest, hleads⟩ := leads_server url
  obtain ⟨fuel, -, hread⟩ := tokens?_of_leads (printable_served.mpr hprintable) hleads
  rw [htokens] at hread
  obtain ⟨s, hrun, rfl⟩ := Option.map_eq_some_iff.mp hread.symm
  have hgap : IsGap (' ' :: g) := List.forall_mem_cons.mpr ⟨.inl rfl, hg⟩
  have hletter : AtLetter (t ++ '\n' :: '#' :: below) := by
    obtain ⟨d, hd, hletter⟩ := ht
    exact ⟨d, List.mem_head?_append_of_mem_head? hd, hletter⟩
  obtain ⟨new, first, hnew, hvalue⟩ := Scanner.run_value hgap hletter (by simp [hrest, hurl]) hrun
  have hfirst : first = .key ∨ first = .blockMappingStart ∨ ∃ v, first = .scalar v .plain := by
    rcases hvalue with hkey | hmapping | ⟨text, htext, -⟩
    · exact .inl hkey
    · exact .inr (.inl hmapping)
    · exact .inr (.inr ⟨_, htext⟩)
  have hbelow : Parser.document (tokensAbove ++ first :: new.reverse) = some d := by
    simpa [hnew] using hdocument
  obtain ⟨bundles, value, more, hroot, hcase⟩ := document_server hfirst hbelow
  have hserver : d.optional? d.text? value = some (some url) := server_of_ofDocument? hroot hconfig
  rcases hcase with rfl | ⟨inner, rfl⟩ | ⟨v, rfl, rfl⟩
  · have hempty : Node.empty = .plain "" := rfl
    rw [hempty, optional?_plain] at hserver
    cases hserver
  · cases hserver
  · rw [optional?_plain] at hserver
    split at hserver
    · cases hserver
    · cases hserver
      exact ⟨below, hvalue⟩

lemma printable_of_parse {c : Config} (h : parse (served url).text = .ok c) :
    ∀ c ∈ url.toList, isPrintable c = true := by
  obtain ⟨d, hd, -⟩ := parse_eq_ok.mp h
  obtain ⟨tokens, htokens, -⟩ := Option.bind_eq_some_iff.mp hd
  rw [tokens?] at htokens
  split at htokens
  · next hall => exact printable_served.mp (List.all_eq_true.mp hall)
  · cases htokens

lemma unquoted_of_parse {g t : List Char} (hurl : url.toList = g ++ t)
    (hg : ∀ c ∈ g, c.toNat ≤ 0x20) (ht : AtLetter t)
    (h : parse (served url).text = .ok (served url)) : Unquoted url := by
  have hprintable := printable_of_parse h
  have hgap : IsGap g := fun c hc =>
    blank_or_break (hg c hc) (hprintable c (by rw [hurl]; exact List.mem_append_left t hc))
  obtain ⟨below, hvalue⟩ := isValue_of_parse hurl hgap ht hprintable h
  have hne : t ≠ [] := by
    rintro rfl
    obtain ⟨d, ⟨⟩, -⟩ := ht
  exact ⟨plainLine_of_isValue hurl hgap hne hvalue, hprintable⟩

lemma parse_of_unquoted {g t : List Char} (hurl : url.toList = g ++ t)
    (hg : ∀ c ∈ g, c.toNat ≤ 0x20) (ht : AtLetter t) (hnull : isNull url = false)
    (h : Unquoted url) : parse (served url).text = .ok (served url) := by
  have hletter : AtLetter url.toList := by
    cases g with
    | nil => rwa [hurl]
    | cons b g =>
      have hb : isBlank b = false := h.first b (by rw [hurl]; rfl)
      have hopen : isBreak b = false := h.unbroken b (by rw [hurl]; exact List.mem_cons_self)
      rcases blank_or_break (hg b List.mem_cons_self)
        (h.printable b (by rw [hurl]; exact List.mem_cons_self)) with h | h
      · simp [h] at hb
      · simp [h] at hopen
  obtain ⟨d, hd, hletter⟩ := hletter
  have htoken : PlainToken url.toList :=
    ⟨h.toPlainLine, d, hd, isBlank_letter hletter, isIndicator_letter hletter,
      letter_ne hletter (by decide)⟩
  have hempty : url.isEmpty = false := by
    rw [← Bool.not_eq_true, String.isEmpty_iff]
    rintro rfl
    cases hd
  refine parse_eq_ok.mpr ⟨servedDocument url, ?_, ofDocument?_served (by rw [hempty, hnull]; rfl)⟩
  rw [Yaml.parse?, tokens?_served (printable_served.mpr h.printable) htoken]
  exact document_served

lemma isNull_of_parse {urls : UrlParser} {u : String} (h : urls.parse url = .ok u) :
    isNull url = false := by
  have hcolon := (urls.scheme h).1
  rw [← Bool.not_eq_true, isNull, List.contains_iff_mem]
  intro hnull
  simp only [List.mem_cons, List.not_mem_nil, or_false] at hnull
  rcases hnull with rfl | rfl | rfl | rfl <;> exact absurd hcolon (by decide)

/-- The template with a URL reads back if and only if the URL needs no quotes. -/
lemma parse_served_iff {urls : UrlParser} {u : String} (h : urls.parse url = .ok u) :
    parse (served url).text = .ok (served url) ↔ Unquoted url := by
  obtain ⟨-, front, rest, letter, hurl, hfront, hletter⟩ := urls.scheme h
  have hrest : AtLetter (letter :: rest) := ⟨letter, rfl, hletter⟩
  exact ⟨unquoted_of_parse hurl hfront hrest,
    parse_of_unquoted hurl hfront hrest (isNull_of_parse h)⟩

end Config

namespace Folder

variable {f : Folder} {content : String}

lemma lookup_place {α : Type} (key : String) (value : α) (entries : List (String × α)) :
    (Dictionary.place key value entries).lookup key = some value := by
  induction entries with
  | nil => simp [Dictionary.place]
  | cons head rest ih =>
    obtain ⟨k, v⟩ := head
    rw [Dictionary.place]
    split
    · simp
    · split
      · simp
      · next hne =>
        rw [List.lookup_cons, beq_false_of_ne hne]
        exact ih

lemma locate_fileName (f : Folder) :
    f.locate [] (names Config.fileName) = some [Config.fileName] := by
  have hnames : names Config.fileName = [Config.fileName] := by decide
  rw [hnames]
  simp [locate, isFolder, Config.fileName]

lemma status_folder (h : f.isFolder [Config.fileName] = true) :
    f.status Config.fileName = .folder := by
  rw [status, if_neg (by decide), locate_fileName]
  simp only [h, if_true]

lemma status_text (h : f.isFolder [Config.fileName] = false)
    (hget : f.entries.get? Config.fileName = some (.text content)) :
    f.status Config.fileName = .text content := by
  have hjoined : joined [Config.fileName] = Config.fileName := by decide
  rw [status, if_neg (by decide), locate_fileName]
  simp only [h, hjoined, hget, Bool.false_eq_true, if_false]

lemma status_write (h : f.status Config.fileName ≠ .folder) :
    (f.write Config.fileName content).status Config.fileName = .text content := by
  have hfile : f.isFolder [Config.fileName] = false :=
    Bool.eq_false_iff.mpr fun hfolder => h (status_folder hfolder)
  have hget : (f.write Config.fileName content).entries.get? Config.fileName =
      some (.text content) := lookup_place _ _ _
  have hjoined : joined [Config.fileName] = Config.fileName := by decide
  refine status_text ?_ hget
  simp only [isFolder, Bool.or_eq_false_iff] at hfile ⊢
  refine ⟨⟨rfl, ?_⟩, ?_⟩
  · rw [hjoined, hget]
    rfl
  · rw [List.any_eq_false] at hfile ⊢
    intro e he
    rcases Dictionary.mem_place he with rfl | he
    · have hself :
          ¬(joined [Config.fileName] ++ "/").toList.isPrefixOf Config.fileName.toList = true := by
        decide
      exact hself
    · exact hfile.2 e he

end Folder

namespace Config

variable {urls : UrlParser} {f f' : Folder} {path : String} {url : Option String} {force : Bool}

lemma init_eq_ok {files : Files} {text : String} : init urls files path url force = .ok text ↔
    ¬(files fileName ≠ .missing ∧ !force) ∧ files fileName ≠ .folder ∧
      ∃ config, initial urls url = .ok config ∧ config.text = text := by
  rw [init]
  by_cases hexists : files fileName ≠ .missing ∧ !force
  · rw [if_pos hexists]
    exact ⟨nofun, fun h => (h.1 hexists).elim⟩
  rw [if_neg hexists]
  cases hconfig : initial urls url with
  | error e => exact ⟨nofun, nofun⟩
  | ok config =>
    by_cases hfolder : files fileName = .folder
    · simp only [bind, Except.bind, if_pos hfolder]
      exact ⟨nofun, fun h => (h.2.1 hfolder).elim⟩
    · simp only [bind, Except.bind, if_neg hfolder]
      constructor
      · intro h
        exact ⟨hexists, hfolder, config, rfl, Except.ok.inj h⟩
      · rintro ⟨-, -, _, hsame, rfl⟩
        rw [Except.ok.inj hsame]
        rfl

lemma initial_some {text : String} {config : Config} : initial urls (some text) = .ok config ↔
    (∃ u, urls.parse text = .ok u) ∧ config = served text := by
  rw [initial, parseFileServer]
  cases urls.parse text with
  | error e => exact ⟨nofun, nofun⟩
  | ok u =>
    constructor
    · intro h
      exact ⟨⟨u, rfl⟩, (Except.ok.inj h).symm⟩
    · rintro ⟨-, rfl⟩
      rfl

/-- What is written into a folder is found in it. -/
lemma discover_init (folder : String) (h : f.init urls path url force = .ok f') :
    ∃ config, initial urls url = .ok config ∧ discover f'.status folder = parse config.text := by
  rw [Folder.init] at h
  cases hinit : Config.init urls f.status path url force with
  | error e =>
    rw [hinit] at h
    cases h
  | ok text =>
    rw [hinit] at h
    cases h
    obtain ⟨-, hfolder, config, hconfig, rfl⟩ := init_eq_ok.mp hinit
    have hstatus : (f.write fileName config.text).status fileName = .text config.text :=
      Folder.status_write hfolder
    refine ⟨config, hconfig, ?_⟩
    have hfound : (fileNames.find? fun name =>
        (f.write fileName config.text).status name ≠ .missing) = some fileName := by
      rw [fileNames, List.find?_cons_of_pos]
      simp [hstatus]
    rw [discover, hfound]
    simp only [load, hstatus]

lemma init_of_initial {config : Config} (hmissing : f.status fileName = .missing)
    (hconfig : initial urls url = .ok config) :
    f.init urls path url force = .ok (f.write fileName config.text) := by
  have hinit : Config.init urls f.status path url force = .ok config.text :=
    init_eq_ok.mpr ⟨by simp [hmissing], by simp [hmissing], config, hconfig, rfl⟩
  rw [Folder.init, hinit]
  rfl

lemma parse_template : parse template.text = .ok template := by
  have hurl : template = served "http://file-server.service.cf.internal:8080" := rfl
  rw [hurl]
  exact parse_of_unquoted (List.nil_append _).symm (by simp) ⟨'h', by decide, by decide⟩ (by decide)
    (by decide +kernel)

/--
A new configuration is read as the template. Of a URL that was given it has just what was given if
the URL needs no quotes in YAML, for it is written without any.
-/
theorem initial_read_back (urls : UrlParser) (f : Folder) (path folder : String) (force : Bool) :
    (∀ f', f.init urls path none force = .ok f' → discover f'.status folder = .ok template) ∧
      ∀ url f', f.init urls path (some url) force = .ok f' →
        (discover f'.status folder = .ok { template with fileServerUrl := some url } ↔
          Yaml.Unquoted url) := by
  constructor
  · intro f' h
    obtain ⟨config, hconfig, hdiscover⟩ := discover_init folder h
    cases hconfig
    rw [hdiscover, parse_template]
  · intro url f' h
    obtain ⟨config, hconfig, hdiscover⟩ := discover_init folder h
    obtain ⟨⟨u, hurl⟩, rfl⟩ := initial_some.mp hconfig
    rw [hdiscover]
    exact parse_served_iff hurl

theorem initial_read_back_plain :
    (∃ f', Folder.init Url.parser ⟨.empty⟩ "." none false = .ok f' ∧
      discover f'.status "." = .ok template) ∧
      ∃ f', Folder.init Url.parser ⟨.empty⟩ "." (some "http://files:8080") false = .ok f' ∧
        discover f'.status "." =
          .ok { template with fileServerUrl := some "http://files:8080" } := by
  have hmissing : Folder.status ⟨.empty⟩ fileName = .missing := by decide
  have hnone : Folder.init Url.parser ⟨.empty⟩ "." none false = .ok _ :=
    init_of_initial hmissing rfl
  have hsome : Folder.init Url.parser ⟨.empty⟩ "." (some "http://files:8080") false = .ok _ :=
    init_of_initial hmissing (initial_some.mpr ⟨⟨_, rfl⟩, rfl⟩)
  have hread := initial_read_back Url.parser ⟨.empty⟩ "." "." false
  exact ⟨⟨_, hnone, hread.1 _ hnone⟩, _, hsome, (hread.2 _ _ hsome).mpr (by decide +kernel)⟩

/-- A URL that is accepted and does not read back: a comment begins within it. -/
theorem initial_read_short :
    ∃ f', Folder.init Url.parser ⟨.empty⟩ "." (some "http://files/a #b") false = .ok f' ∧
      discover f'.status "." ≠
        .ok { template with fileServerUrl := some "http://files/a #b" } := by
  obtain ⟨u, hurl⟩ : ∃ u, Url.parser.parse "http://files/a #b" = .ok u := ⟨_, rfl⟩
  have hinit : Folder.init Url.parser ⟨.empty⟩ "." (some "http://files/a #b") false = .ok _ :=
    init_of_initial (by decide) (initial_some.mpr ⟨⟨u, hurl⟩, rfl⟩)
  refine ⟨_, hinit, fun h => ?_⟩
  obtain ⟨config, hconfig, hdiscover⟩ := discover_init "." hinit
  obtain ⟨-, rfl⟩ := initial_some.mp hconfig
  have hunquoted : Yaml.Unquoted "http://files/a #b" :=
    (parse_served_iff hurl).mp (hdiscover.symm.trans h)
  exact absurd hunquoted (by decide +kernel)

end Config

end Rollout
