import Mathlib.Data.List.TakeWhile
import Rollout.Environment
import Rollout.Proofs.Text.Bytes

/-! What is found for a name, and the variables that are set. -/

namespace Rollout.Environment

/-- The first entry that begins with the name and an equals sign has the text behind them. -/
structure Finds (env : Environment) (name text : String) : Prop where
  nonempty : name ≠ ""
  terminated : '\x00' ∉ name.toList
  first : ∃ ahead behind, env = ahead ++ entry name text :: behind ∧
    ∀ other ∈ ahead, ¬ Text.bytes (name ++ "=") <+: other

/-- The variable that an entry sets: its name ends at the first equals sign. -/
def binding? (entry : List UInt8) : Option (List UInt8 × List UInt8) :=
  match entry.dropWhile (· != 0x3d) with
  | [] => none
  | _ :: value => some (entry.takeWhile (· != 0x3d), value)

/-- The value of a variable. -/
def value? (env : Environment) (name : String) : Option (List UInt8) :=
  (env.filterMap binding?).lookup (Text.bytes name)

variable {env : Environment} {name text : String} {item u v : List UInt8}

lemma bytes_name : Text.bytes (name ++ "=") = Text.bytes name ++ [0x3d] := Text.bytes_append

lemma isPrefixOf?_entry : (Text.bytes (name ++ "=")).isPrefixOf? item = some (Text.bytes text) ↔
    item = entry name text := by
  rw [List.isPrefixOf?_eq_some_iff_append_eq, ← Text.bytes_append, eq_comm, entry]

lemma isPrefixOf?_eq_none :
    (Text.bytes (name ++ "=")).isPrefixOf? item = none ↔ ¬ Text.bytes (name ++ "=") <+: item := by
  rw [← Option.not_isSome_iff_eq_none, List.isSome_isPrefixOf?_eq_isPrefixOf,
    List.isPrefixOf_iff_prefix]

lemma bytes?_eq_some : env.bytes? name = some (Text.bytes text) ↔ env.Finds name text := by
  rw [bytes?]
  constructor
  · intro h
    split at h
    · cases h
    · next hname =>
      obtain ⟨hne, hnul⟩ := not_or.mp hname
      obtain ⟨ahead, item, behind, henv, hitem, hahead⟩ := List.findSome?_eq_some_iff.mp h
      obtain rfl := isPrefixOf?_entry.mp hitem
      exact ⟨hne, hnul, ahead, behind, henv, fun other h => isPrefixOf?_eq_none.mp (hahead other h)⟩
  · rintro ⟨hne, hnul, ahead, behind, henv, hahead⟩
    rw [if_neg (not_or.mpr ⟨hne, hnul⟩), List.findSome?_eq_some_iff]
    exact ⟨ahead, _, behind, henv, isPrefixOf?_entry.mpr rfl,
      fun other h => isPrefixOf?_eq_none.mpr (hahead other h)⟩

lemma get?_eq_some : env.get? name = some text ↔ env.Finds name text := by
  rw [get?, ← bytes?_eq_some, Option.bind_eq_some_iff]
  simp only [Text.ofBytes?_eq_some, exists_eq_right]

lemma get?_eq_none : env.get? name = none ↔ ∀ text, ¬ env.Finds name text := by
  simp only [← get?_eq_some, Option.eq_none_iff_forall_ne_some]

lemma binding?_eq_some : binding? item = some (u, v) ↔ 0x3d ∉ u ∧ item = u ++ 0x3d :: v := by
  rw [binding?]
  constructor
  · intro h
    split at h
    · cases h
    · next sign value hbehind =>
      obtain ⟨rfl, rfl⟩ := Prod.mk.inj (Option.some.inj h)
      have hsign : (sign != 0x3d) = false := by
        simpa [hbehind] using List.head?_dropWhile_not (· != 0x3d) item
      obtain rfl : sign = 0x3d := by simpa using hsign
      refine ⟨fun hmem => by simpa using List.mem_takeWhile_imp hmem, ?_⟩
      rw [← hbehind, List.takeWhile_append_dropWhile]
  · rintro ⟨hname, rfl⟩
    have hkept : ∀ b ∈ u, (b != 0x3d) = true := by
      intro b hb
      rw [bne_iff_ne]
      rintro rfl
      exact hname hb
    rw [List.dropWhile_append_of_pos hkept, List.takeWhile_append_of_pos hkept]
    simp

/-- A name without an equals sign finds the variable that it is the name of. -/
lemma bytes?_eq_value? (hne : name ≠ "") (hnul : '\x00' ∉ name.toList) (hsign : '=' ∉ name.toList) :
    env.bytes? name = env.value? name := by
  have hplain : 0x3d ∉ Text.bytes name := by
    intro h
    obtain ⟨c, hc, hcode⟩ := Text.mem_bytes (by decide) h
    obtain rfl : c = '=' := Char.toNat_inj.mp hcode
    exact hsign hc
  have hitem : ∀ item v, (Text.bytes (name ++ "=")).isPrefixOf? item = some v ↔
      binding? item = some (Text.bytes name, v) := by
    intro item v
    rw [List.isPrefixOf?_eq_some_iff_append_eq, binding?_eq_some, bytes_name, List.append_assoc,
      eq_comm]
    exact (and_iff_right hplain).symm
  have hother : ∀ item, (∀ v, binding? item ≠ some (Text.bytes name, v)) →
      (Text.bytes (name ++ "=")).isPrefixOf? item = none := fun item h =>
    Option.eq_none_iff_forall_ne_some.mpr fun v hv => h v ((hitem item v).mp hv)
  rw [bytes?, if_neg (not_or.mpr ⟨hne, hnul⟩), value?]
  induction env with
  | nil => rfl
  | cons item env ih =>
    rw [List.findSome?_cons, List.filterMap_cons]
    cases hbinding : binding? item with
    | none =>
      rw [hother item (by simp [hbinding])]
      exact ih
    | some pair =>
      obtain ⟨u, v⟩ := pair
      by_cases hu : Text.bytes name = u
      · subst hu
        rw [(hitem item v).mpr hbinding, List.lookup_cons_self]
      · rw [hother item (by simp [hbinding, Ne.symm hu]), List.lookup_cons, beq_false_of_ne hu]
        exact ih

end Rollout.Environment
