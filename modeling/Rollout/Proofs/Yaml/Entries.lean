import Mathlib.Tactic.Lemma
import Rollout.Yaml.Node

/-! How the parser goes through the entries of block mappings. -/

namespace Rollout.Yaml

def Node.plain (text : String) : Node := .scalar ⟨text, .plain, none⟩

namespace Parser

def State.ahead (s : State) (tokens : List Token) : State := { s with tokens }

variable {s : State} {fuel : Nat} {k v : String} {rest : List Token}

lemma blockEntries_entry :
    blockEntries (fuel + 4)
        (s.ahead (.key :: .scalar k .plain :: .value :: .scalar v .plain :: rest)) =
      (blockEntries (fuel + 3) (s.ahead rest)).bind fun p =>
        some ((.plain k, .plain v) :: p.1, p.2) := rfl

lemma blockEntries_key :
    blockEntries (fuel + 4) (s.ahead (.key :: .scalar k .plain :: .value :: .key :: rest)) =
      (blockEntries (fuel + 3) (s.ahead (.key :: rest))).bind fun p =>
        some ((.plain k, .empty) :: p.1, p.2) := rfl

lemma blockEntries_mapping :
    blockEntries (fuel + 4)
        (s.ahead (.key :: .scalar k .plain :: .value :: .blockMappingStart :: rest)) =
      (blockEntries fuel (s.ahead rest)).bind fun inner =>
        (blockEntries (fuel + 3) inner.2).bind fun p =>
          some ((.plain k, .mapping none inner.1) :: p.1, p.2) := by
  have hvalue : blockEntries (fuel + 4)
        (s.ahead (.key :: .scalar k .plain :: .value :: .blockMappingStart :: rest)) =
      ((blockEntries fuel (s.ahead rest)).bind fun inner =>
        some (Node.mapping none inner.1, inner.2)).bind fun value =>
          (blockEntries (fuel + 3) value.2).bind fun p =>
            some ((.plain k, value.1) :: p.1, p.2) := rfl
  rw [hvalue, Option.bind_assoc]
  rfl

lemma document_mapping :
    document (.blockMappingStart :: rest) =
      (blockEntries (4 * rest.length + 7) ⟨rest, standardHandles, [], 0, []⟩).bind fun p =>
        if p.2.tokens.dropWhile (· = .documentEnd) = [.streamEnd] then
          some ⟨some (.mapping none p.1), p.2.anchored⟩
        else none := by
  have hroot : root false (4 * (rest.length + 1) + 4)
        ⟨.blockMappingStart :: rest, standardHandles, [], 0, []⟩ =
      (blockEntries (4 * rest.length + 7) ⟨rest, standardHandles, [], 0, []⟩).bind fun p =>
        some (.mapping none p.1, p.2) := rfl
  have hdirectives : directives false (.blockMappingStart :: rest) [] =
      some ([], .blockMappingStart :: rest) := rfl
  rw [document, hdirectives]
  · simp only [List.head?_cons, List.length_cons, Option.bind_eq_bind, Option.bind_some,
      List.nil_append, reduceCtorEq, Option.some.injEq, decide_false, Bool.not_false,
      not_true_eq_false, ne_eq, and_false, if_false, StateT.run, hroot, Option.bind_assoc]
    rfl
  · simp

/-- The value of a key is the plain scalar behind its colon; without one, it is empty or below. -/
lemma blockEntries_value {t : Token} {entries : List (Node × Node)} {s' : State}
    (ht : t = .key ∨ t = .blockMappingStart ∨ ∃ v, t = .scalar v .plain)
    (h : blockEntries (fuel + 4)
      (s.ahead (.key :: .scalar k .plain :: .value :: t :: rest)) = some (entries, s')) :
    ∃ value more, entries = (.plain k, value) :: more ∧
      (value = .empty ∨ (∃ inner, value = .mapping none inner) ∨
        ∃ v, t = .scalar v .plain ∧ value = .plain v) := by
  rcases ht with rfl | rfl | ⟨v, rfl⟩
  · rw [blockEntries_key, Option.bind_eq_some_iff] at h
    obtain ⟨p, -, h⟩ := h
    cases h
    exact ⟨_, _, rfl, .inl rfl⟩
  · rw [blockEntries_mapping, Option.bind_eq_some_iff] at h
    obtain ⟨inner, -, h⟩ := h
    obtain ⟨p, -, h⟩ := Option.bind_eq_some_iff.mp h
    cases h
    exact ⟨_, _, rfl, .inr (.inl ⟨_, rfl⟩)⟩
  · rw [blockEntries_entry, Option.bind_eq_some_iff] at h
    obtain ⟨p, -, h⟩ := h
    cases h
    exact ⟨_, _, rfl, .inr (.inr ⟨_, rfl, rfl⟩)⟩

end Parser

end Rollout.Yaml
