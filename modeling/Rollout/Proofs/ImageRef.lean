import Rollout.ImageRef
import Rollout.Proofs.Text.Split

/-! The digest of an image reference: where it stands in the text, and where in the URI. -/

namespace Rollout

namespace ImageRef

open Text (cut? cut?_eq_some)

variable {r : ImageRef} {text d : String} {s : List Char}

lemma splitDigest_digest {undigested : List Char} {digest : Option (List Char)}
    (h : splitDigest s = some (undigested, digest)) : digest = (cut? '@' s).map (·.2) := by
  unfold splitDigest at h
  split at h
  · rename_i hcut
    cases h
    rw [hcut]
    rfl
  · cases h
  · rename_i hcut
    cases h
    rw [hcut]
    rfl

lemma ofChars_digest (h : ofChars s = .ok r) :
    r.digest = (cut? '@' s).map fun cut => String.ofList cut.2 := by
  unfold ofChars at h
  split at h
  · cases h
  · rename_i undigested digest hsplit
    dsimp only at h
    split at h
    · cases h
    · obtain rfl := Except.ok.inj h
      rw [splitDigest_digest hsplit, Option.map_map]
      rfl

lemma ofChars_of_parse (h : parse text = .ok r) :
    ofChars (Text.trimWhile Text.isBlank text.toList) = .ok r := by
  unfold parse at h
  dsimp only at h
  split at h
  · cases h
  split at h
  · cases h
  split at h
  · cases h
  · exact h

/-- The digest is what follows the first `@`. -/
lemma digest_of_parse (h : parse text = .ok r) :
    r.digest = some d ↔ ∃ before, '@' ∉ before ∧
      Text.trimWhile Text.isBlank text.toList = before ++ '@' :: d.toList := by
  rw [ofChars_digest (ofChars_of_parse h), Option.map_eq_some_iff]
  constructor
  · rintro ⟨⟨before, after⟩, hcut, rfl⟩
    rw [String.toList_ofList]
    exact ⟨before, cut?_eq_some.mp hcut⟩
  · rintro ⟨before, hcut⟩
    exact ⟨(before, d.toList), cut?_eq_some.mpr hcut, String.ofList_toList⟩

lemma sha256?_eq_some {hex : String} :
    r.sha256? = some hex ↔ r.digest = some ("sha256:" ++ hex) ∧ hex ≠ "" := by
  unfold sha256?
  constructor
  · intro h
    split at h
    · cases h
    · rename_i digest hdigest
      split at h
      · rename_i hp
        obtain ⟨rest, hrest⟩ := List.isPrefixOf_iff_prefix.mp hp
        rw [← hrest, List.drop_left' (by rfl)] at h
        dsimp only at h
        split at h
        · cases h
        · rename_i hne
          obtain rfl := Option.some.inj h
          rw [hdigest, ← String.ofList_toList (s := digest), ← hrest, String.ofList_append,
            String.ofList_toList]
          exact ⟨rfl, fun he => hne (String.ofList_eq_empty_iff.mp he)⟩
      · cases h
  · rintro ⟨hdigest, hne⟩
    have hp : "sha256:".toList.isPrefixOf ("sha256:" ++ hex).toList = true :=
      List.isPrefixOf_iff_prefix.mpr ⟨hex.toList, String.toList_append.symm⟩
    have hdrop : ("sha256:" ++ hex).toList.drop 7 = hex.toList := by
      rw [String.toList_append, List.drop_left' (by rfl)]
    simp only [hdigest, hp, hdrop, if_true, String.toList_eq_nil_iff, hne, if_false,
      String.ofList_toList]

lemma uri_of_digest {hex : String} (h : r.digest = some ("sha256:" ++ hex)) :
    ∃ before, r.uri = before ++ "#sha256:" ++ hex := by
  have hpin : r.pin = "sha256:" ++ hex := by rw [pin, h]; rfl
  have hhash : "#sha256:" = "#" ++ "sha256:" := rfl
  refine ⟨"docker://" ++ r.registry.getD "" ++ "/" ++ r.path, ?_⟩
  simp only [uri, hpin, hhash, String.append_assoc]

end ImageRef

end Rollout
