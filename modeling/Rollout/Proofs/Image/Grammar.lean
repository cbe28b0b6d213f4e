import Rollout.Proofs.ImageRef

/-! Which texts are image references, why others are not, and which references there are. -/

namespace Rollout.ImageRef

variable {r : ImageRef} {text : String} {s path name : List Char}
variable {registry tag digest : Option (List Char)} {x : Except ImageRefError ImageRef}

def HostLike (s : List Char) : Prop := '.' ∈ s ∨ ':' ∈ s ∨ s = "localhost".toList

lemma isHostLike_iff : isHostLike s = true ↔ HostLike s := by
  rw [isHostLike, Bool.or_eq_true, Bool.or_eq_true, List.contains_iff_mem, List.contains_iff_mem,
    decide_eq_true_eq, or_assoc, HostLike]

/-- A slash follows each colon, so that none of them begins a tag. -/
def Untagged (s : List Char) : Prop := ∀ before after, s = before ++ ':' :: after → '/' ∈ after

/-- `s` is a path, a tag and a digest, of which the last two may be missing. -/
structure Parts (s path : List Char) (tag digest : Option (List Char)) : Prop where
  joined : s = path ++ tag.elim [] (':' :: ·) ++ digest.elim [] ('@' :: ·)
  unmarked : '@' ∉ path
  plain : ∀ g ∈ tag, '/' ∉ g ∧ ':' ∉ g ∧ '@' ∉ g
  untagged : tag = none → Untagged path

/-- `path` leads to the image `name`, in a registry if one is named. -/
structure Located (path : List Char) (registry : Option (List Char)) (name : List Char) : Prop where
  joined : path = registry.elim name (· ++ '/' :: name)
  host : ∀ g ∈ registry, '/' ∉ g ∧ HostLike g
  bare : registry = none → ∀ first rest, name = first ++ '/' :: rest → '/' ∉ first →
    ¬ HostLike first

structure Clean (s : List Char) : Prop where
  nonempty : s ≠ []
  schemeless : ¬ "://".toList <:+: s
  allowed : ∀ c ∈ s, isAllowed c = true

def ofParts (registry : Option (List Char)) (name : List Char)
    (tag digest : Option (List Char)) : ImageRef where
  registry := registry.map .ofList
  name := .ofList name
  tag := if tag = none ∧ digest = none then some "latest" else tag.map .ofList
  digest := digest.map .ofList

/-- What is to be answered to the text `s`, around which there are no blanks. -/
inductive Verdict (s : List Char) : Except ImageRefError ImageRef → Prop
  | empty : s = [] → Verdict s (.error .empty)
  | scheme : "://".toList <:+: s → Verdict s (.error (.hasScheme (.ofList s)))
  | character {before after : List Char} {c : Char} : ¬ "://".toList <:+: s →
      s = before ++ c :: after → (∀ d ∈ before, isAllowed d = true) → isAllowed c = false →
      Verdict s (.error (.invalidChar c))
  | digest {path : List Char} {tag : Option (List Char)} : Clean s → Parts s path tag (some []) →
      Verdict s (.error (.invalidFormat (.ofList s)))
  | path {path : List Char} {tag digest : Option (List Char)} : Clean s →
      Parts s path tag digest → digest ≠ some [] → path = [] ∨ path.getLast? = some '/' →
      Verdict s (.error (.invalidFormat (.ofList path)))
  | reference {path name : List Char} {registry tag digest : Option (List Char)} : Clean s →
      Parts s path tag digest → digest ≠ some [] → path ≠ [] → path.getLast? ≠ some '/' →
      Located path registry name → Verdict s (.ok (ofParts registry name tag digest))

section Cuts

lemma Untagged.of_last {before after : List Char} (hcolon : ':' ∉ after) (hslash : '/' ∈ after) :
    Untagged (before ++ ':' :: after) := by
  intro before' after' he
  rcases List.append_eq_append_iff.mp he with ⟨between, -, he⟩ | ⟨between, -, he⟩
  · cases between with
    | nil =>
      obtain rfl := (List.cons.inj he).2
      exact hslash
    | cons c between =>
      obtain ⟨-, rfl⟩ := List.cons.inj he
      exact (hcolon (List.mem_append_right _ List.mem_cons_self)).elim
  · cases between with
    | nil =>
      obtain rfl := (List.cons.inj he).2
      exact hslash
    | cons c between =>
      obtain ⟨-, rfl⟩ := List.cons.inj he
      exact List.mem_append_right _ (List.mem_cons_of_mem _ hslash)

lemma splitTag_none (h : Untagged path) : splitTag path = (path, none) := by
  unfold splitTag
  cases hcut : Text.cutLast? ':' path with
  | none => rfl
  | some cut =>
    have hslash := h _ _ (Text.cutLast?_eq_some.mp hcut).2
    exact if_pos (List.contains_iff_mem.mpr hslash)

lemma splitTag_some {g : List Char} (hslash : '/' ∉ g) (hcolon : ':' ∉ g) :
    splitTag (path ++ ':' :: g) = (path, some g) := by
  have hcut : Text.cutLast? ':' (path ++ ':' :: g) = some (path, g) :=
    Text.cutLast?_eq_some.mpr ⟨hcolon, rfl⟩
  simp only [splitTag, hcut]
  exact if_neg fun h => hslash (List.contains_iff_mem.mp h)

lemma Parts.splitTag (h : Parts s path tag digest) :
    ImageRef.splitTag (path ++ tag.elim [] (':' :: ·)) = (path, tag) := by
  cases tag with
  | none =>
    rw [Option.elim_none, List.append_nil]
    exact splitTag_none (h.untagged rfl)
  | some g =>
    obtain ⟨hslash, hcolon, -⟩ := h.plain g rfl
    exact splitTag_some hslash hcolon

lemma Parts.undigested (h : Parts s path tag digest) : '@' ∉ path ++ tag.elim [] (':' :: ·) := by
  rw [List.mem_append, not_or]
  refine ⟨h.unmarked, ?_⟩
  cases tag with
  | none => exact List.not_mem_nil
  | some g => simpa using (h.plain g rfl).2.2

lemma Parts.cut? (h : Parts s path tag digest) :
    Text.cut? '@' s = digest.map fun d => (path ++ tag.elim [] (':' :: ·), d) := by
  rw [h.joined]
  cases digest with
  | none =>
    rw [Option.elim_none, List.append_nil]
    exact Text.cut?_eq_none.mpr h.undigested
  | some d => exact Text.cut?_eq_some.mpr ⟨h.undigested, rfl⟩

lemma Parts.splitDigest (h : Parts s path tag digest) (hd : digest ≠ some []) :
    ImageRef.splitDigest s = some (path ++ tag.elim [] (':' :: ·), digest) := by
  rw [ImageRef.splitDigest, h.cut?]
  cases digest with
  | none => rw [Option.map_none, h.joined, Option.elim_none, List.append_nil]
  | some d =>
    cases d with
    | nil => exact (hd rfl).elim
    | cons c d => rfl

lemma Parts.splitDigest_none (h : Parts s path tag (some [])) : ImageRef.splitDigest s = none := by
  rw [ImageRef.splitDigest, h.cut?]
  rfl

lemma Located.splitRegistry (h : Located path registry name) :
    ImageRef.splitRegistry path = (registry, name) := by
  have hjoined := h.joined
  cases registry with
  | none =>
    obtain rfl : path = name := hjoined
    unfold ImageRef.splitRegistry
    cases hcut : Text.cut? '/' path with
    | none => rfl
    | some cut =>
      obtain ⟨hfirst, he⟩ := Text.cut?_eq_some.mp hcut
      exact if_neg fun hh => h.bare rfl _ _ he hfirst (isHostLike_iff.mp hh)
  | some g =>
    obtain ⟨hslash, hhost⟩ := h.host g rfl
    have hcut : Text.cut? '/' path = some (g, name) := Text.cut?_eq_some.mpr ⟨hslash, hjoined⟩
    simp only [ImageRef.splitRegistry, hcut]
    exact if_pos (isHostLike_iff.mpr hhost)

lemma exists_tag (h : '@' ∉ s) :
    ∃ path tag, s = path ++ tag.elim [] (':' :: ·) ∧ '@' ∉ path ∧
      (∀ g ∈ tag, '/' ∉ g ∧ ':' ∉ g ∧ '@' ∉ g) ∧ (tag = none → Untagged path) := by
  by_cases hs : Untagged s
  · exact ⟨s, none, (List.append_nil s).symm, h, by simp, fun _ => hs⟩
  cases hcut : Text.cutLast? ':' s with
  | none =>
    refine (hs fun before after he => ?_).elim
    exact (Text.cutLast?_eq_none.mp hcut (he ▸ List.mem_append_right _ List.mem_cons_self)).elim
  | some cut =>
    obtain ⟨before, after⟩ := cut
    obtain ⟨hcolon, rfl⟩ := Text.cutLast?_eq_some.mp hcut
    have hslash : '/' ∉ after := fun hslash => hs (.of_last hcolon hslash)
    rw [List.mem_append, List.mem_cons, not_or, not_or] at h
    refine ⟨before, some after, rfl, h.1, ?_, by simp⟩
    rintro g ⟨⟩
    exact ⟨hslash, hcolon, h.2.2⟩

lemma exists_parts (s : List Char) : ∃ path tag digest, Parts s path tag digest := by
  cases hcut : Text.cut? '@' s with
  | none =>
    obtain ⟨path, tag, hs, hpath, htag, hun⟩ := exists_tag (Text.cut?_eq_none.mp hcut)
    exact ⟨path, tag, none, hs.trans (List.append_nil _).symm, hpath, htag, hun⟩
  | some cut =>
    obtain ⟨hfront, hs⟩ := Text.cut?_eq_some.mp hcut
    obtain ⟨path, tag, he, hpath, htag, hun⟩ := exists_tag hfront
    exact ⟨path, tag, some cut.2, he ▸ hs, hpath, htag, hun⟩

lemma exists_located (path : List Char) : ∃ registry name, Located path registry name := by
  by_cases h : ∃ first rest, path = first ++ '/' :: rest ∧ '/' ∉ first ∧ HostLike first
  · obtain ⟨first, rest, hp, hslash, hhost⟩ := h
    refine ⟨some first, rest, hp, ?_, by simp⟩
    rintro g ⟨⟩
    exact ⟨hslash, hhost⟩
  · exact ⟨none, path, rfl, by simp, fun _ first rest hp hslash hhost =>
      h ⟨first, rest, hp, hslash, hhost⟩⟩

end Cuts

section Answers

lemma verdict_exists (s : List Char) : ∃ x, Verdict s x := by
  by_cases hempty : s = []
  · exact ⟨_, .empty hempty⟩
  by_cases hscheme : "://".toList <:+: s
  · exact ⟨_, .scheme hscheme⟩
  cases hfind : s.find? fun c => !isAllowed c with
  | some c =>
    obtain ⟨hc, before, after, hs, hbefore⟩ := List.find?_eq_some_iff_append.mp hfind
    exact ⟨_, .character hscheme hs (by simpa using hbefore) (by simpa using hc)⟩
  | none =>
    have hclean : Clean s := ⟨hempty, hscheme, by simpa using hfind⟩
    obtain ⟨path, tag, digest, hparts⟩ := exists_parts s
    by_cases hd : digest = some []
    · subst hd
      exact ⟨_, .digest hclean hparts⟩
    by_cases hp : path = [] ∨ path.getLast? = some '/'
    · exact ⟨_, .path hclean hparts hd hp⟩
    · obtain ⟨registry, name, hlocated⟩ := exists_located path
      rw [not_or] at hp
      exact ⟨_, .reference hclean hparts hd hp.1 hp.2 hlocated⟩

lemma parse_clean (h : Clean (Text.trimWhile Text.isBlank text.toList)) :
    parse text = ofChars (Text.trimWhile Text.isBlank text.toList) := by
  have hscheme : Text.includes "://".toList (Text.trimWhile Text.isBlank text.toList) = false :=
    Bool.eq_false_iff.mpr fun hi => h.schemeless (Text.includes_iff.mp hi)
  have hfind : (Text.trimWhile Text.isBlank text.toList).find? (fun c => !isAllowed c) = none :=
    List.find?_eq_none.mpr fun c hc => by simp [h.allowed c hc]
  simp only [parse, h.nonempty, hscheme, hfind, if_false, Bool.false_eq_true]

lemma ofChars_digest_empty (h : Parts s path tag (some [])) :
    ofChars s = .error (.invalidFormat (.ofList s)) := by
  simp only [ofChars, h.splitDigest_none]

lemma ofChars_path (h : Parts s path tag digest) (hd : digest ≠ some [])
    (hp : path = [] ∨ path.getLast? = some '/') :
    ofChars s = .error (.invalidFormat (.ofList path)) := by
  simp only [ofChars, h.splitDigest hd, h.splitTag, hp, if_true]

lemma ofChars_reference (h : Parts s path tag digest) (hd : digest ≠ some []) (hp : path ≠ [])
    (hlast : path.getLast? ≠ some '/') (hl : Located path registry name) :
    ofChars s = .ok (ofParts registry name tag digest) := by
  simp only [ofChars, h.splitDigest hd, h.splitTag, hp, hlast, or_self, if_false, hl.splitRegistry,
    ofParts]
  by_cases hpin : tag = none ∧ digest = none
  · rw [if_pos hpin, if_pos hpin]
    rfl
  · rw [if_neg hpin, if_neg hpin]

lemma parse_of_verdict (h : Verdict (Text.trimWhile Text.isBlank text.toList) x) :
    parse text = x := by
  cases h with
  | empty h => simp only [parse, h, if_true]
  | scheme h =>
    have hne : Text.trimWhile Text.isBlank text.toList ≠ [] := by
      intro he
      rw [he, List.infix_nil] at h
      cases h
    simp only [parse, hne, Text.includes_iff.mpr h, if_false, if_true]
  | @character before after c hscheme hs hbefore hc =>
    have hne : Text.trimWhile Text.isBlank text.toList ≠ [] := by simp [hs]
    have hnot : Text.includes "://".toList (Text.trimWhile Text.isBlank text.toList) = false :=
      Bool.eq_false_iff.mpr fun hi => hscheme (Text.includes_iff.mp hi)
    have hfind : (Text.trimWhile Text.isBlank text.toList).find? (fun c => !isAllowed c) = some c :=
      List.find?_eq_some_iff_append.mpr
        ⟨by simpa using hc, before, after, hs, by simpa using hbefore⟩
    simp only [parse, hne, hnot, hfind, if_false, Bool.false_eq_true]
  | digest hclean hparts => exact (parse_clean hclean).trans (ofChars_digest_empty hparts)
  | path hclean hparts hd hp => exact (parse_clean hclean).trans (ofChars_path hparts hd hp)
  | reference hclean hparts hd hp hlast hl =>
    exact (parse_clean hclean).trans (ofChars_reference hparts hd hp hlast hl)

lemma parse_eq_iff : parse text = x ↔ Verdict (Text.trimWhile Text.isBlank text.toList) x := by
  refine ⟨?_, parse_of_verdict⟩
  rintro rfl
  obtain ⟨x, hx⟩ := verdict_exists (Text.trimWhile Text.isBlank text.toList)
  rwa [parse_of_verdict hx]

end Answers

end Rollout.ImageRef
