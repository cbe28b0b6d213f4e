import Rollout.Proofs.Image.Grammar
import Rollout.Proofs.Text.Trim

/-! How references are written, and that they are read back as they were. -/

namespace Rollout.ImageRef

variable {r : ImageRef} {text : String} {s path name : List Char}
variable {registry tag digest : Option (List Char)} {c : Char}

/-- The image with its registry. -/
def repository (r : ImageRef) : List Char :=
  r.registry.elim r.name.toList (·.toList ++ '/' :: r.name.toList)

structure WellFormed (r : ImageRef) : Prop where
  tag : ∀ g ∈ r.tag, '/' ∉ g.toList ∧ ':' ∉ g.toList ∧ '@' ∉ g.toList
  pinned : ¬ (r.tag = none ∧ r.digest = none)
  digest : r.digest ≠ some ""
  name : r.name.toList ≠ [] ∧ r.name.toList.getLast? ≠ some '/'
  registry : ∀ g ∈ r.registry, '/' ∉ g.toList ∧ HostLike g.toList
  bare : r.registry = none → ∀ first rest, r.name.toList = first ++ '/' :: rest → '/' ∉ first →
    ¬ HostLike first
  untagged : r.tag = none → Untagged r.repository
  unmarked : '@' ∉ r.repository
  allowed : ∀ c ∈ r.text.toList, isAllowed c = true
  schemeless : ¬ "://".toList <:+: r.text.toList

lemma toList_text (r : ImageRef) :
    r.text.toList = r.repository ++ (r.tag.map String.toList).elim [] (':' :: ·) ++
      (r.digest.map String.toList).elim [] ('@' :: ·) := by
  obtain ⟨registry, name, tag, digest⟩ := r
  cases registry <;> cases tag <;> cases digest <;> simp [ImageRef.text, repository]

lemma Located.ends (h : Located path registry name) :
    path ≠ [] ∧ path.getLast? ≠ some '/' ↔ name ≠ [] ∧ name.getLast? ≠ some '/' := by
  rw [h.joined]
  cases registry with
  | none => rfl
  | some g => cases name <;> simp [List.getLast?_append, List.getLast?_cons_cons]

lemma isBlank_of_isAllowed (h : isAllowed c = true) : Text.isBlank c = false := by
  simp only [isAllowed, Bool.or_eq_true, beq_iff_eq] at h
  rcases h with (((((h | rfl) | rfl) | rfl) | rfl) | rfl) | rfl
  · change (decide (65 ≤ c.val ∧ c.val ≤ 90) || (decide (97 ≤ c.val) && decide (c.val ≤ 122)) ||
      (decide (48 ≤ c.val) && decide (c.val ≤ 57))) = true at h
    simp only [Bool.or_eq_true, Bool.and_eq_true, decide_eq_true_eq, UInt32.le_iff_toNat_le] at h
    change (65 ≤ c.toNat ∧ c.toNat ≤ 90 ∨ 97 ≤ c.toNat ∧ c.toNat ≤ 122) ∨
      48 ≤ c.toNat ∧ c.toNat ≤ 57 at h
    exact Text.isBlank_of_visible (by omega) (by omega)
  all_goals rfl

namespace WellFormed

lemma parts (h : r.WellFormed) :
    Parts r.text.toList r.repository (r.tag.map String.toList) (r.digest.map String.toList) where
  joined := toList_text r
  unmarked := h.unmarked
  plain := by
    intro g hg
    obtain ⟨tag, htag, rfl⟩ := Option.map_eq_some_iff.mp hg
    exact h.tag tag htag
  untagged := fun ht => h.untagged (Option.map_eq_none_iff.mp ht)

lemma located (h : r.WellFormed) :
    Located r.repository (r.registry.map String.toList) r.name.toList where
  joined := by
    rw [repository]
    cases r.registry <;> rfl
  host := by
    intro g hg
    obtain ⟨registry, hregistry, rfl⟩ := Option.map_eq_some_iff.mp hg
    exact h.registry registry hregistry
  bare := fun hn => h.bare (Option.map_eq_none_iff.mp hn)

lemma ofParts_eq (h : r.WellFormed) :
    ofParts (r.registry.map String.toList) r.name.toList (r.tag.map String.toList)
      (r.digest.map String.toList) = r := by
  have hpin := h.pinned
  obtain ⟨registry, name, tag, digest⟩ := r
  simp only [ofParts, Option.map_eq_none_iff, hpin, if_false, Option.map_map, Function.comp_def,
    String.ofList_toList, Option.map_id']

lemma verdict (h : r.WellFormed) : Verdict r.text.toList (.ok r) := by
  have hends := h.located.ends.mpr h.name
  have hclean : Clean r.text.toList := by
    refine ⟨fun he => hends.1 ?_, h.schemeless, h.allowed⟩
    rw [toList_text, List.append_assoc] at he
    exact (List.append_eq_nil_iff.mp he).1
  have hdigest : r.digest.map String.toList ≠ some [] := by
    intro hd
    obtain ⟨d, hd, he⟩ := Option.map_eq_some_iff.mp hd
    exact h.digest (hd.trans (congrArg some (String.toList_eq_nil_iff.mp he)))
  have hverdict := Verdict.reference hclean h.parts hdigest hends.1 hends.2 h.located
  rwa [h.ofParts_eq] at hverdict

lemma parse_text (h : r.WellFormed) : parse r.text = .ok r := by
  rw [parse_eq_iff, Text.trimWhile_eq_self fun c hc => isBlank_of_isAllowed (h.allowed c hc)]
  exact h.verdict

end WellFormed

section Results

lemma map_toList_ofList (part : Option (List Char)) :
    (part.map String.ofList).map String.toList = part := by
  cases part <;> simp

lemma repository_ofParts (h : Located path registry name) :
    (ofParts registry name tag digest).repository = path := by
  rw [h.joined, repository, ofParts]
  cases registry <;> simp

/-- What is written is the text that was read, with the tag that it left out. -/
lemma text_ofParts (h : Parts s path tag digest) (hl : Located path registry name) :
    (ofParts registry name tag digest).text.toList =
      s ++ if tag = none ∧ digest = none then ":latest".toList else [] := by
  rw [toList_text, repository_ofParts hl, h.joined]
  by_cases hpin : tag = none ∧ digest = none
  · obtain ⟨rfl, rfl⟩ := hpin
    simp [ofParts]
  · simp only [ofParts, hpin, if_false, map_toList_ofList, List.append_nil]

lemma tag_ofParts_eq_none :
    (ofParts registry name tag digest).tag = none ↔ tag = none ∧ digest ≠ none := by
  by_cases hpin : tag = none ∧ digest = none
  · simp [ofParts, hpin]
  · simp only [ofParts, if_neg hpin, Option.map_eq_none_iff]
    exact ⟨fun ht => ⟨ht, fun hd => hpin ⟨ht, hd⟩⟩, And.left⟩

lemma wellFormed_ofParts (hc : Clean s) (hp : Parts s path tag digest) (hd : digest ≠ some [])
    (hends : path ≠ [] ∧ path.getLast? ≠ some '/') (hl : Located path registry name) :
    (ofParts registry name tag digest).WellFormed where
  tag := by
    intro g hg
    simp only [ofParts] at hg
    split at hg
    · cases hg
      decide
    · obtain ⟨t, ht, rfl⟩ := Option.map_eq_some_iff.mp hg
      rw [String.toList_ofList]
      exact hp.plain t ht
  pinned := by
    rintro ⟨ht, hn⟩
    exact (tag_ofParts_eq_none.mp ht).2 (Option.map_eq_none_iff.mp hn)
  digest := by
    intro he
    obtain ⟨d, hd', he⟩ := Option.map_eq_some_iff.mp he
    exact hd (hd'.trans (congrArg some (String.ofList_eq_empty_iff.mp he)))
  name := by
    rw [ofParts, String.toList_ofList]
    exact hl.ends.mp hends
  registry := by
    intro g hg
    obtain ⟨t, ht, rfl⟩ := Option.map_eq_some_iff.mp hg
    rw [String.toList_ofList]
    exact hl.host t ht
  bare := by
    intro hn
    rw [ofParts, String.toList_ofList]
    exact hl.bare (Option.map_eq_none_iff.mp hn)
  untagged := by
    intro ht
    rw [repository_ofParts hl]
    exact hp.untagged (tag_ofParts_eq_none.mp ht).1
  unmarked := by
    rw [repository_ofParts hl]
    exact hp.unmarked
  allowed := by
    intro c hc'
    rw [text_ofParts hp hl] at hc'
    rcases List.mem_append.mp hc' with hs | hlatest
    · exact hc.allowed c hs
    · split at hlatest
      · have hall : ":latest".toList.all isAllowed = true := by decide
        exact List.all_eq_true.mp hall c hlatest
      · cases hlatest
  schemeless := by
    rw [text_ofParts hp hl]
    split
    · have hslash : '/' ∉ ":latest".toList := by decide
      exact fun h => hc.schemeless (Text.infix_of_append rfl hslash h)
    · rw [List.append_nil]
      exact hc.schemeless

lemma toList_text_of_parse (h : parse text = .ok r) :
    ∃ path tag digest, Parts (Text.trimWhile Text.isBlank text.toList) path tag digest ∧
      r.text.toList = Text.trimWhile Text.isBlank text.toList ++
        if tag = none ∧ digest = none then ":latest".toList else [] := by
  cases parse_eq_iff.mp h with
  | reference _ hparts _ _ _ hl => exact ⟨_, _, _, hparts, text_ofParts hparts hl⟩

lemma wellFormed_of_parse (h : parse text = .ok r) : r.WellFormed := by
  cases parse_eq_iff.mp h with
  | reference hc hp hd hne hlast hl => exact wellFormed_ofParts hc hp hd ⟨hne, hlast⟩ hl

end Results

/--
The answer to a text is its verdict, the references that are read are the well-formed ones, and
each of these is what its own text is read as.
-/
theorem references_exact :
    (∀ (text : String) (x : Except ImageRefError ImageRef),
      parse text = x ↔ Verdict (Text.trimWhile Text.isBlank text.toList) x) ∧
    (∀ r : ImageRef, (∃ text, parse text = .ok r) ↔ r.WellFormed) ∧
    ∀ r : ImageRef, r.WellFormed → parse r.text = .ok r := by
  refine ⟨fun text x => parse_eq_iff, fun r => ⟨?_, fun h => ⟨r.text, h.parse_text⟩⟩,
    fun r h => h.parse_text⟩
  rintro ⟨text, h⟩
  exact wellFormed_of_parse h

theorem references_exact_of_odd_parts :
    let r : ImageRef := ⟨some "localhost:5000", "/a:b", some "", some "sha256:0@/:"⟩
    r.text = "localhost:5000//a:b:@sha256:0@/:" ∧ r.WellFormed ∧ parse r.text = .ok r := by
  intro r
  have htext : r.text = "localhost:5000//a:b:@sha256:0@/:" := by decide
  have hparse : parse "localhost:5000//a:b:@sha256:0@/:" = .ok r := by rfl
  have hr : r.WellFormed := (references_exact.2.1 r).mp ⟨_, hparse⟩
  exact ⟨htext, hr, references_exact.2.2 r hr⟩

lemma Parts.unpinned (h : Parts s path tag digest) :
    tag = none ∧ digest = none ↔ '@' ∉ s ∧ Untagged s := by
  constructor
  · rintro ⟨rfl, rfl⟩
    have hs : s = path := by simpa using h.joined
    exact hs ▸ ⟨h.unmarked, h.untagged rfl⟩
  · rintro ⟨hmark, htag⟩
    have hdigest : digest = none := by
      cases digest with
      | none => rfl
      | some d => exact (hmark (h.joined ▸ List.mem_append_right _ List.mem_cons_self)).elim
    subst hdigest
    refine ⟨?_, rfl⟩
    cases tag with
    | none => rfl
    | some g =>
      have hs : s = path ++ ':' :: g := by simpa using h.joined
      exact ((h.plain g rfl).1 (htag path g hs)).elim

/--
A reference is written as it was read, but for blanks and with the tag `latest` if the text had
neither tag nor digest; it is read back as it is, and no other is written like it.
-/
theorem text_reads_back (h : parse text = .ok r) :
    let s := Text.trimWhile Text.isBlank text.toList
    ('@' ∉ s ∧ Untagged s → r.text = Text.trim text ++ ":latest") ∧
    (¬ ('@' ∉ s ∧ Untagged s) → r.text = Text.trim text) ∧
    parse r.text = .ok r ∧
    ∀ (text' : String) (r' : ImageRef), parse text' = .ok r' → r'.text = r.text → r' = r := by
  intro s
  have hback : parse r.text = .ok r := (wellFormed_of_parse h).parse_text
  obtain ⟨path, tag, digest, hparts, htext⟩ := toList_text_of_parse h
  refine ⟨?_, ?_, hback, ?_⟩
  · intro hpin
    rw [← String.toList_inj, htext, if_pos (hparts.unpinned.mpr hpin), String.toList_append]
    exact congrArg (· ++ ":latest".toList) String.toList_ofList.symm
  · intro hpin
    rw [← String.toList_inj, htext, if_neg (mt hparts.unpinned.mp hpin), List.append_nil]
    exact String.toList_ofList.symm
  · intro text' r' h' he
    have hback' : parse r'.text = .ok r' := (wellFormed_of_parse h').parse_text
    rw [he, hback] at hback'
    exact (Except.ok.inj hback').symm

theorem text_reads_back_untagged :
    let r : ImageRef := ⟨some "localhost:5000", "a/b", some "latest", none⟩
    parse " localhost:5000/a/b\n" = .ok r ∧ r.text = "localhost:5000/a/b:latest" ∧
      parse r.text = .ok r := by
  intro r
  have hparse : parse " localhost:5000/a/b\n" = .ok r := by rfl
  have hback := text_reads_back hparse
  have huntagged : Untagged ("localhost".toList ++ ':' :: "5000/a/b".toList) :=
    .of_last (by decide) (by decide)
  have hunmarked : '@' ∉ "localhost".toList ++ ':' :: "5000/a/b".toList := by decide
  exact ⟨hparse, hback.1 ⟨hunmarked, huntagged⟩, hback.2.2.1⟩

end Rollout.ImageRef
