import Mathlib.Data.List.Forall2
import Rollout.Proofs.Graph.Delivery

/-! Steps over a list, of which the first to fail is the one that counts. -/

namespace Rollout

variable {ε α β : Type} {f : α → Except ε β} {x : α} {xs ahead behind : List α} {ys : List β}
variable {e : ε}

lemma mapM_cons_eq : (x :: xs).mapM f =
    (f x).bind fun y => (xs.mapM f).bind fun ys => .ok (y :: ys) := List.mapM_cons

lemma mapM_append_eq : (ahead ++ behind).mapM f =
    (ahead.mapM f).bind fun before => (behind.mapM f).bind fun after => .ok (before ++ after) :=
  List.mapM_append

lemma mapM_ok : xs.mapM f = .ok ys ↔ List.Forall₂ (fun x y => f x = .ok y) xs ys := by
  induction xs generalizing ys with
  | nil =>
    rw [List.mapM_nil, List.forall₂_nil_left_iff]
    exact ⟨fun h => (Except.ok.inj h).symm, fun h => congrArg _ h.symm⟩
  | cons x xs ih =>
    simp only [mapM_cons_eq, bind_ok, ih, List.forall₂_cons_left_iff]
    constructor
    · rintro ⟨y, hy, rest, hrest, ⟨⟩⟩
      exact ⟨y, rest, hy, hrest, rfl⟩
    · rintro ⟨y, rest, hy, hrest, rfl⟩
      exact ⟨y, hy, rest, hrest, rfl⟩

lemma mapM_around : (ahead ++ x :: behind).mapM f = .ok ys ↔
    ∃ before y after, ahead.mapM f = .ok before ∧ f x = .ok y ∧ behind.mapM f = .ok after ∧
      ys = before ++ y :: after := by
  simp only [mapM_append_eq, mapM_cons_eq, bind_ok]
  constructor
  · rintro ⟨before, hbefore, _, ⟨y, hy, after, hafter, ⟨⟩⟩, ⟨⟩⟩
    exact ⟨before, y, after, hbefore, hy, hafter, rfl⟩
  · rintro ⟨before, y, after, hbefore, hy, hafter, rfl⟩
    exact ⟨before, hbefore, _, ⟨y, hy, after, hafter, rfl⟩, rfl⟩

lemma bind_error {result : Except ε α} :
    result.bind f = .error e ↔ result = .error e ∨ ∃ a, result = .ok a ∧ f a = .error e := by
  cases result <;> simp [Except.bind]

lemma mapM_error : xs.mapM f = .error e ↔ ∃ ahead x behind ys,
    xs = ahead ++ x :: behind ∧ ahead.mapM f = .ok ys ∧ f x = .error e := by
  constructor
  · intro h
    induction xs with
    | nil => cases h
    | cons x xs ih =>
      rw [mapM_cons_eq] at h
      rcases bind_error.mp h with hx | ⟨y, hy, h⟩
      · exact ⟨[], x, xs, [], rfl, rfl, hx⟩
      · obtain hxs | ⟨ys, -, ⟨⟩⟩ := bind_error.mp h
        obtain ⟨ahead, x', behind, ys, rfl, hahead, hx'⟩ := ih hxs
        refine ⟨x :: ahead, x', behind, y :: ys, rfl, ?_, hx'⟩
        rw [mapM_cons_eq, hy, hahead]
        rfl
  · rintro ⟨ahead, x, behind, ys, rfl, hahead, hx⟩
    rw [mapM_append_eq, hahead, mapM_cons_eq, hx]
    rfl

lemma exists_mapM : (∃ ys, xs.mapM f = .ok ys) ↔ ∀ x ∈ xs, ∃ y, f x = .ok y := by
  induction xs with
  | nil => exact ⟨fun _ => nofun, fun _ => ⟨[], rfl⟩⟩
  | cons x xs ih =>
    simp only [mapM_cons_eq, bind_ok, List.forall_mem_cons, ← ih]
    constructor
    · rintro ⟨_, y, hy, ys, hys, ⟨⟩⟩
      exact ⟨⟨y, hy⟩, ys, hys⟩
    · rintro ⟨⟨y, hy⟩, ys, hys⟩
      exact ⟨_, y, hy, ys, hys, rfl⟩

end Rollout
