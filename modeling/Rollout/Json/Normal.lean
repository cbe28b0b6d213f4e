import Rollout.Json.Basic
import Rollout.Dictionary

/-!
Free-form data: documents whose objects, at every depth, have their members in increasing order
of the names and each name once.
-/

namespace Rollout.Json

mutual

/-- Orders the members of every object; of two members with one name the later counts. -/
def normalize : Json → Json
  | .array items => .array (normalizeItems items)
  | .object members => .object (normalizeMembers [] members)
  | j => j

def normalizeItems : List Json → List Json
  | [] => []
  | x :: xs => normalize x :: normalizeItems xs

def normalizeMembers (placed : List (String × Json)) :
    List (String × Json) → List (String × Json)
  | [] => placed
  | (k, v) :: ms => normalizeMembers (Dictionary.place k (normalize v) placed) ms

end

mutual

/-- Every object is in order, and no piece is unreadable. -/
def IsNormal : Json → Prop
  | .array items => AllNormal items
  | .object members => members.Pairwise (fun a b => a.1 < b.1) ∧ MembersNormal members
  | .unreadable => False
  | _ => True

def AllNormal : List Json → Prop
  | [] => True
  | x :: xs => IsNormal x ∧ AllNormal xs

def MembersNormal : List (String × Json) → Prop
  | [] => True
  | (_, v) :: ms => IsNormal v ∧ MembersNormal ms

end

mutual

def isReadable : Json → Bool
  | .array items => allReadable items
  | .object members => membersReadable members
  | .unreadable => false
  | _ => true

def allReadable : List Json → Bool
  | [] => true
  | x :: xs => isReadable x && allReadable xs

def membersReadable : List (String × Json) → Bool
  | [] => true
  | (_, v) :: ms => isReadable v && membersReadable ms

end

theorem membersNormal_place {k : String} {v : Json} (hv : IsNormal v) :
    ∀ {members : List (String × Json)}, MembersNormal members →
      MembersNormal (Dictionary.place k v members)
  | [], _ => ⟨hv, trivial⟩
  | (l, w) :: rest, h => by
    rw [Dictionary.place]
    split
    · exact ⟨hv, h⟩
    · split
      · exact ⟨hv, h.2⟩
      · exact ⟨h.1, membersNormal_place hv h.2⟩

mutual

theorem isNormal_normalize : ∀ {j : Json}, isReadable j = true → IsNormal (normalize j)
  | .null, _ | .bool _, _ | .number _, _ | .string _, _ => by simp [normalize, IsNormal]
  | .unreadable, h => by simp [isReadable] at h
  | .array items, h => by
    simpa [normalize, IsNormal] using allNormal_normalizeItems (by simpa [isReadable] using h)
  | .object members, h => by
    simpa [normalize, IsNormal] using
      membersNormal_normalizeMembers .nil trivial (by simpa [isReadable] using h)

theorem allNormal_normalizeItems :
    ∀ {items : List Json}, allReadable items = true → AllNormal (normalizeItems items)
  | [], _ => trivial
  | x :: xs, h => by
    simp only [allReadable, Bool.and_eq_true] at h
    exact ⟨isNormal_normalize h.1, allNormal_normalizeItems h.2⟩

theorem membersNormal_normalizeMembers {placed : List (String × Json)}
    (ordered : placed.Pairwise fun a b => a.1 < b.1) (normal : MembersNormal placed) :
    ∀ {members : List (String × Json)}, membersReadable members = true →
      (normalizeMembers placed members).Pairwise (fun a b => a.1 < b.1) ∧
        MembersNormal (normalizeMembers placed members)
  | [], _ => ⟨ordered, normal⟩
  | (k, v) :: ms, h => by
    simp only [membersReadable, Bool.and_eq_true] at h
    exact membersNormal_normalizeMembers (Dictionary.place_ordered k _ ordered)
      (membersNormal_place (isNormal_normalize h.1) normal) h.2

end

/-- The members of a free-form object. -/
structure Annotations where
  members : List (String × Json)
  normal : IsNormal (.object members)

namespace Annotations

instance : DecidableEq Annotations := fun a b =>
  if h : a.members = b.members then
    isTrue (by cases a; cases b; cases h; rfl)
  else isFalse fun e => h (e ▸ rfl)

def empty : Annotations := ⟨[], .nil, trivial⟩

def toJson (a : Annotations) : Json := .object a.members

def ofJson? : Json → Option Annotations
  | .object members =>
    if h : membersReadable members = true then
      some ⟨normalizeMembers [] members, membersNormal_normalizeMembers .nil trivial h⟩
    else none
  | _ => none

end Annotations

end Rollout.Json
