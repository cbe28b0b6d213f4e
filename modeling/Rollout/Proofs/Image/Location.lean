import Rollout.Proofs.Image.Spelling

/-! Which references have the same URI, and where their parts stand in it. -/

namespace Rollout.ImageRef

variable {r r' : ImageRef} {text text' : String}

def Official (r : ImageRef) : Prop := r.registry = none ∨ r.registry = some "docker.io"

/-- `name` has no namespace, and `other` is in the one that the official registry keeps for it. -/
def Shelved (name other : String) : Prop := '/' ∉ name.toList ∧ other = "library/" ++ name

section Path

lemma path_shelved (h : r.Official) (hn : '/' ∉ r.name.toList) : r.path = "library/" ++ r.name := by
  have hslash : r.name.toList.contains '/' = false :=
    Bool.eq_false_iff.mpr fun hc => hn (List.contains_iff_mem.mp hc)
  rw [path, hslash]
  exact if_pos ⟨h, rfl⟩

lemma path_named (h : r.Official → '/' ∈ r.name.toList) : r.path = r.name := by
  refine if_neg fun ho => ?_
  have hslash : r.name.toList.contains '/' = true := List.contains_iff_mem.mpr (h ho.1)
  simp only [hslash, Bool.not_true, Bool.false_eq_true, and_false] at ho

lemma slash_mem_shelf (name : String) : '/' ∈ ("library/" ++ name).toList := by
  rw [String.toList_append]
  exact List.mem_append_left _ (by decide)

lemma path_eq_iff (h : r.registry = r'.registry) :
    r.path = r'.path ↔
      r.name = r'.name ∨ r.Official ∧ (Shelved r.name r'.name ∨ Shelved r'.name r.name) := by
  have hofficial : r'.Official ↔ r.Official := by rw [Official, Official, h]
  by_cases ho : r.Official
  · by_cases hn : '/' ∈ r.name.toList
    · by_cases hn' : '/' ∈ r'.name.toList
      · rw [path_named fun _ => hn, path_named fun _ => hn']
        simp [Shelved, hn, hn']
      · have hne : r.name ≠ r'.name := fun he => hn' (he ▸ hn)
        rw [path_named fun _ => hn, path_shelved (hofficial.mpr ho) hn']
        simp [Shelved, ho, hn, hn', hne]
    · by_cases hn' : '/' ∈ r'.name.toList
      · have hne : r.name ≠ r'.name := fun he => hn (he ▸ hn')
        rw [path_shelved ho hn, path_named fun _ => hn', eq_comm]
        simp [Shelved, ho, hn, hn', hne]
      · -- Neither has a namespace, so neither stands in that of the other.
        have hshelf : r'.name ≠ "library/" ++ r.name := fun he => hn' (he ▸ slash_mem_shelf _)
        have hshelf' : r.name ≠ "library/" ++ r'.name := fun he => hn (he ▸ slash_mem_shelf _)
        rw [path_shelved ho hn, path_shelved (hofficial.mpr ho) hn']
        simp [Shelved, hshelf, hshelf']
  · rw [path_named fun h => (ho h).elim, path_named fun h => (ho (hofficial.mp h)).elim]
    simp [ho]

end Path

section Parts

def host (r : ImageRef) : List Char := (r.registry.getD "").toList

lemma toList_uri (r : ImageRef) :
    r.uri.toList =
      "docker://".toList ++ (r.host ++ '/' :: (r.path.toList ++ '#' :: r.pin.toList)) := by
  have hslash : "/".toList = ['/'] := rfl
  have hhash : "#".toList = ['#'] := rfl
  simp only [uri, host, String.toList_append, hslash, hhash, List.append_assoc,
    List.cons_append, List.nil_append]

namespace WellFormed

lemma slash_not_mem_host (h : r.WellFormed) : '/' ∉ r.host := by
  rw [host]
  cases hr : r.registry with
  | none => exact List.not_mem_nil
  | some registry => exact (h.registry registry hr).1

lemma registry_ne_empty (h : r.WellFormed) : r.registry ≠ some "" := by
  intro he
  have hhost : HostLike [] := (h.registry "" he).2
  rcases hhost with hdot | hcolon | hlocal
  · cases hdot
  · cases hcolon
  · cases hlocal

lemma host_eq_iff (h : r.WellFormed) (h' : r'.WellFormed) :
    r.host = r'.host ↔ r.registry = r'.registry := by
  have hn : r.registry ≠ some "" := h.registry_ne_empty
  have hn' : r'.registry ≠ some "" := h'.registry_ne_empty
  rw [host, host, String.toList_inj]
  cases hr : r.registry <;> cases hr' : r'.registry <;> simp_all [eq_comm]

lemma pin_eq (h : r.WellFormed) : r.digest.or r.tag = some r.pin := by
  rw [pin]
  cases hd : r.digest with
  | some d => rfl
  | none =>
    cases ht : r.tag with
    | some g => rfl
    | none => exact (h.pinned ⟨ht, hd⟩).elim

lemma hash_not_mem_parts (h : r.WellFormed) :
    '#' ∉ r.repository ∧ (∀ g ∈ r.tag, '#' ∉ g.toList) ∧ ∀ d ∈ r.digest, '#' ∉ d.toList := by
  have htext : '#' ∉ r.text.toList := fun hm => Bool.false_ne_true (h.allowed '#' hm)
  rw [toList_text, List.mem_append, List.mem_append, not_or, not_or] at htext
  refine ⟨htext.1.1, ?_, ?_⟩
  · rintro g hg hm
    refine htext.1.2 ?_
    rw [Option.mem_def.mp hg]
    exact List.mem_cons_of_mem ':' hm
  · rintro d hd hm
    refine htext.2 ?_
    rw [Option.mem_def.mp hd]
    exact List.mem_cons_of_mem '@' hm

lemma hash_not_mem_host (h : r.WellFormed) : '#' ∉ r.host := by
  have hrepository := h.hash_not_mem_parts.1
  rw [repository] at hrepository
  rw [host]
  cases hr : r.registry with
  | none => exact List.not_mem_nil
  | some registry =>
    rw [hr] at hrepository
    exact fun hm => hrepository (List.mem_append_left _ hm)

lemma hash_not_mem_path (h : r.WellFormed) : '#' ∉ r.path.toList := by
  have hname : '#' ∉ r.name.toList := by
    have hrepository := h.hash_not_mem_parts.1
    rw [repository] at hrepository
    cases hr : r.registry with
    | none => rwa [hr] at hrepository
    | some registry =>
      rw [hr] at hrepository
      exact fun hm => hrepository (List.mem_append_right _ (List.mem_cons_of_mem '/' hm))
  rw [path]
  split
  · rw [String.toList_append, List.mem_append, not_or]
    exact ⟨by decide, hname⟩
  · exact hname

lemma hash_not_mem_pin (h : r.WellFormed) : '#' ∉ r.pin.toList := by
  obtain ⟨-, htag, hdigest⟩ := h.hash_not_mem_parts
  rcases Option.or_eq_some_iff.mp h.pin_eq with hd | ⟨-, ht⟩
  · exact hdigest _ hd
  · exact htag _ ht

lemma uri_eq_iff (h : r.WellFormed) (h' : r'.WellFormed) :
    r.uri = r'.uri ↔ r.registry = r'.registry ∧ r.path = r'.path ∧ r.pin = r'.pin := by
  rw [← String.toList_inj, toList_uri, toList_uri, List.append_cancel_left_eq,
    Text.append_cons_inj h.slash_not_mem_host h'.slash_not_mem_host,
    Text.append_cons_inj h.hash_not_mem_path h'.hash_not_mem_path, h.host_eq_iff h',
    String.toList_inj, String.toList_inj]

lemma count_hash (h : r.WellFormed) : r.uri.toList.count '#' = 1 := by
  have hhost : r.host.count '#' = 0 := List.count_eq_zero.mpr h.hash_not_mem_host
  have hpath : r.path.toList.count '#' = 0 := List.count_eq_zero.mpr h.hash_not_mem_path
  have hpin : r.pin.toList.count '#' = 0 := List.count_eq_zero.mpr h.hash_not_mem_pin
  simp [toList_uri, List.count_append, hhost, hpath, hpin]

end WellFormed

end Parts

/--
Two references have one URI just if they agree in registry and pin, and in the name but for the
namespace of the official registry. The registry ends at the first slash after the scheme, and
there is one `#`, between the path and the pin.
-/
theorem uri_identifies (h : parse text = .ok r) (h' : parse text' = .ok r') :
    (r.uri = r'.uri ↔
      r.registry = r'.registry ∧ r.digest.or r.tag = r'.digest.or r'.tag ∧
        (r.name = r'.name ∨ r.Official ∧ (Shelved r.name r'.name ∨ Shelved r'.name r.name))) ∧
    ∃ rest pin,
      r.uri.toList = "docker://".toList ++ rest ∧ r.digest.or r.tag = some pin ∧
      Text.cut? '/' rest = some ((r.registry.getD "").toList, r.path.toList ++ '#' :: pin.toList) ∧
      r.uri.toList.count '#' = 1 := by
  have hr : r.WellFormed := wellFormed_of_parse h
  have hr' : r'.WellFormed := wellFormed_of_parse h'
  constructor
  · rw [hr.uri_eq_iff hr', hr.pin_eq, hr'.pin_eq, Option.some.injEq]
    refine and_congr_right fun hregistry => ?_
    rw [path_eq_iff hregistry, and_comm]
  · exact ⟨_, r.pin, toList_uri r, hr.pin_eq, Text.cut?_eq_some.mpr ⟨hr.slash_not_mem_host, rfl⟩,
      hr.count_hash⟩

theorem uri_identifies_redis :
    let r : ImageRef := ⟨some "docker.io", "redis", none, some "sha256:0"⟩
    let r' : ImageRef := ⟨some "docker.io", "library/redis", some "7", some "sha256:0"⟩
    parse "docker.io/redis@sha256:0" = .ok r ∧
    parse "docker.io/library/redis:7@sha256:0" = .ok r' ∧
    r.uri = "docker://docker.io/library/redis#sha256:0" ∧ r.uri = r'.uri := by
  intro r r'
  have hparse : parse "docker.io/redis@sha256:0" = .ok r := by rfl
  have hparse' : parse "docker.io/library/redis:7@sha256:0" = .ok r' := by rfl
  have hshelved : Shelved r.name r'.name := ⟨by decide, rfl⟩
  exact ⟨hparse, hparse', by decide,
    (uri_identifies hparse hparse').1.mpr ⟨rfl, rfl, .inr ⟨.inr rfl, .inl hshelved⟩⟩⟩

end Rollout.ImageRef
