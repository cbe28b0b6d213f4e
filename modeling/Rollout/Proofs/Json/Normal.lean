import Mathlib.Tactic.Lemma
import Rollout.Json.Normal

/-! Data that is in order already stays as it is. -/

namespace Rollout

lemma Dictionary.place_last {α : Type} {key : String} {value : α} {entries : List (String × α)}
    (h : ∀ e ∈ entries, e.1 < key) : place key value entries = entries ++ [(key, value)] := by
  induction entries with
  | nil => rfl
  | cons entry entries ih =>
    rw [List.forall_mem_cons] at h
    rw [place, if_neg (String.lt_asymm h.1), if_neg (Std.ne_of_lt h.1).symm, ih h.2,
      List.cons_append]

namespace Json

mutual

lemma isReadable_of_isNormal : ∀ {j : Json}, IsNormal j → isReadable j = true
  | .null, _ | .bool _, _ | .number _, _ | .string _, _ => by simp [isReadable]
  | .unreadable, h => h.elim
  | .array _, h => by simpa [isReadable] using allReadable_of_allNormal (by simpa [IsNormal] using h)
  | .object _, h => by
    simpa [isReadable] using membersReadable_of_membersNormal (by simpa [IsNormal] using h.2)

lemma allReadable_of_allNormal : ∀ {items : List Json}, AllNormal items → allReadable items = true
  | [], _ => rfl
  | _ :: _, h => by
    simp [allReadable, isReadable_of_isNormal h.1, allReadable_of_allNormal h.2]

lemma membersReadable_of_membersNormal :
    ∀ {members : List (String × Json)}, MembersNormal members → membersReadable members = true
  | [], _ => rfl
  | _ :: _, h => by
    simp [membersReadable, isReadable_of_isNormal h.1, membersReadable_of_membersNormal h.2]

end

mutual

lemma normalize_of_isNormal : ∀ {j : Json}, IsNormal j → normalize j = j
  | .null, _ | .bool _, _ | .number _, _ | .string _, _ | .unreadable, _ => by simp [normalize]
  | .array _, h => by rw [normalize, normalizeItems_of_allNormal (by simpa [IsNormal] using h)]
  | .object members, h => by
    have hsame : normalizeMembers [] members = [] ++ members :=
      normalizeMembers_of_membersNormal h.1 h.2
    rw [normalize, hsame, List.nil_append]

lemma normalizeItems_of_allNormal :
    ∀ {items : List Json}, AllNormal items → normalizeItems items = items
  | [], _ => rfl
  | _ :: _, h => by
    rw [normalizeItems, normalize_of_isNormal h.1, normalizeItems_of_allNormal h.2]

/-- Members that come in order find their place at the end. -/
lemma normalizeMembers_of_membersNormal {placed : List (String × Json)} :
    ∀ {members : List (String × Json)}, (placed ++ members).Pairwise (fun a b => a.1 < b.1) →
      MembersNormal members → normalizeMembers placed members = placed ++ members
  | [], _, _ => by simp [normalizeMembers]
  | (k, v) :: members, ordered, normal => by
    have hlast : ∀ e ∈ placed, e.1 < k := fun e he =>
      (List.pairwise_append.mp ordered).2.2 e he (k, v) List.mem_cons_self
    rw [normalizeMembers, normalize_of_isNormal normal.1, Dictionary.place_last hlast,
      normalizeMembers_of_membersNormal (by simpa using ordered) normal.2, List.append_assoc]
    rfl

end

@[simp] lemma Annotations.ofJson?_toJson (a : Annotations) : ofJson? a.toJson = some a := by
  have hreadable := membersReadable_of_membersNormal a.normal.2
  have hsame : normalizeMembers [] a.members = [] ++ a.members :=
    normalizeMembers_of_membersNormal a.normal.1 a.normal.2
  simp only [ofJson?, toJson, hreadable, dite_true, hsame, List.nil_append]

end Json

end Rollout
