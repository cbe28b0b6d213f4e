import Rollout.Proofs.Image.Location

/-! Which parts of a reference and of its URI may be empty. -/

namespace Rollout.ImageRef

variable {r : ImageRef} {text : String} {s path name : List Char}
variable {registry tag digest : Option (List Char)}

def front (s : List Char) : List Char := s.takeWhile (· != '@')

section Tag

lemma Parts.front_eq (h : Parts s path tag digest) : front s = path ++ tag.elim [] (':' :: ·) := by
  have hmark : ∀ c ∈ path ++ tag.elim [] (':' :: ·), (c != '@') = true := fun c hc =>
    bne_iff_ne.mpr fun he => h.undigested (he ▸ hc)
  rw [front, h.joined, List.takeWhile_append_of_pos hmark]
  cases digest <;> simp

lemma Parts.tag_empty_iff (h : Parts s path tag digest) :
    tag = some [] ↔ (front s).getLast? = some ':' := by
  rw [h.front_eq]
  cases tag with
  | none =>
    refine ⟨nofun, fun hlast => ?_⟩
    rw [Option.elim_none, List.append_nil] at hlast
    obtain ⟨before, rfl⟩ := List.getLast?_eq_some_iff.mp hlast
    exact (List.not_mem_nil (h.untagged rfl before [] rfl)).elim
  | some g =>
    cases g with
    | nil => simp
    | cons c g =>
      refine ⟨nofun, fun hlast => ?_⟩
      rw [Option.elim_some, List.getLast?_append_of_ne_nil _ (List.cons_ne_nil _ _),
        List.getLast?_cons_cons] at hlast
      exact ((h.plain _ rfl).2.1 (List.mem_of_getLast? hlast)).elim

lemma tag_ofParts_eq_empty : (ofParts registry name tag digest).tag = some "" ↔ tag = some [] := by
  by_cases hpin : tag = none ∧ digest = none
  · simp [ofParts, hpin]
  · simp [ofParts, hpin]

lemma tag_empty_of_parse (h : parse text = .ok r) :
    r.tag = some "" ↔ (front (Text.trimWhile Text.isBlank text.toList)).getLast? = some ':' := by
  cases parse_eq_iff.mp h with
  | reference _ hparts _ _ _ _ => rw [tag_ofParts_eq_empty, hparts.tag_empty_iff]

end Tag

section Location

lemma digest_none_of_parse (h : parse text = .ok r) :
    r.digest = none ↔ '@' ∉ Text.trimWhile Text.isBlank text.toList := by
  rw [ofChars_digest (ofChars_of_parse h), Option.map_eq_none_iff, Text.cut?_eq_none]

lemma front_eq_self (h : '@' ∉ s) : front s = s :=
  List.takeWhile_eq_self_iff.mpr fun _ hc => bne_iff_ne.mpr fun he => h (he ▸ hc)

namespace WellFormed

lemma name_ne_empty (h : r.WellFormed) : r.name ≠ "" :=
  fun he => h.name.1 (String.toList_eq_nil_iff.mpr he)

lemma path_ne_empty (h : r.WellFormed) : r.path ≠ "" := by
  rw [path]
  split
  · intro he
    exact h.name_ne_empty (String.append_eq_empty_iff.mp he).2
  · exact h.name_ne_empty

lemma pin_eq_empty (h : r.WellFormed) : r.pin = "" ↔ r.digest = none ∧ r.tag = some "" := by
  have hpin := h.pin_eq
  cases hd : r.digest with
  | none =>
    rw [hd, Option.none_or] at hpin
    rw [hpin, Option.some.injEq]
    exact (and_iff_right rfl).symm
  | some d =>
    rw [hd, Option.some_or] at hpin
    obtain rfl : d = r.pin := Option.some.inj hpin
    exact iff_of_false (fun he => h.digest (he ▸ hd)) nofun

end WellFormed

lemma pin_empty_of_parse (h : parse text = .ok r) :
    let s := Text.trimWhile Text.isBlank text.toList
    r.pin = "" ↔ '@' ∉ s ∧ s.getLast? = some ':' := by
  intro s
  rw [(wellFormed_of_parse h).pin_eq_empty, tag_empty_of_parse h, digest_none_of_parse h]
  exact and_congr_right fun hmark => by rw [front_eq_self hmark]

end Location

/--
Registry, name and digest are never empty, nor is the path of the URI. A tag is empty if the text
before the digest ends with a colon; where there is no digest either, nothing pins the image.
-/
theorem parts_present (h : parse text = .ok r) :
    let s := Text.trimWhile Text.isBlank text.toList
    r.registry ≠ some "" ∧ r.name ≠ "" ∧ r.digest ≠ some "" ∧
    (r.tag = some "" ↔ (front s).getLast? = some ':') ∧
    ∃ host path fragment : List Char,
      r.uri.toList = "docker://".toList ++ (host ++ '/' :: (path ++ '#' :: fragment)) ∧
      '/' ∉ host ∧ '#' ∉ path ∧ '#' ∉ fragment ∧ path ≠ [] ∧
      r.digest.or r.tag = some (.ofList fragment) ∧
      (fragment = [] ↔ '@' ∉ s ∧ s.getLast? = some ':') := by
  intro s
  have hr : r.WellFormed := wellFormed_of_parse h
  refine ⟨hr.registry_ne_empty, hr.name_ne_empty, hr.digest, tag_empty_of_parse h, r.host, r.path.toList,
    r.pin.toList, toList_uri r, hr.slash_not_mem_host, hr.hash_not_mem_path, hr.hash_not_mem_pin,
    ?_, ?_, ?_⟩
  · exact fun he => hr.path_ne_empty (String.toList_eq_nil_iff.mp he)
  · rw [String.ofList_toList]
    exact hr.pin_eq
  · rw [String.toList_eq_nil_iff]
    exact pin_empty_of_parse h

theorem parts_present_nginx :
    let r : ImageRef := ⟨none, "nginx", some "", some "sha256:0"⟩
    parse "nginx:@sha256:0" = .ok r ∧ r.tag = some "" ∧
    ∃ host path fragment : List Char,
      r.uri.toList = "docker://".toList ++ (host ++ '/' :: (path ++ '#' :: fragment)) ∧
      path ≠ [] ∧ fragment ≠ [] := by
  intro r
  have hparse : parse "nginx:@sha256:0" = .ok r := by rfl
  obtain ⟨-, -, -, htag, host, path, fragment, huri, -, -, -, hpath, -, hpin⟩ :=
    parts_present hparse
  refine ⟨hparse, htag.mpr (by decide), host, path, fragment, huri, hpath, fun he => ?_⟩
  exact absurd (hpin.mp he).1 (by decide)

/-- The tag `latest` stands in for one that is left out, and not for an empty one. -/
theorem nothing_pins :
    let r : ImageRef := ⟨none, "nginx", some "", none⟩
    parse "nginx:" = .ok r ∧ r.uri = "docker:///library/nginx#" :=
  ⟨by rfl, by decide⟩

end Rollout.ImageRef
