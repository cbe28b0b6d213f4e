import Mathlib.Tactic.Lemma
import Rollout.Json.Reader
import Rollout.Json.Writer

/-! Strings read back from the text that they are written as. -/

namespace Rollout.Json

variable {c : Char} {s rest : List Char} {seen : List Nat} {done : List Char}

lemma control_digits : ∀ n < 0x20,
    Text.ofBase? 16 ['0', '0', Text.hexDigit (n / 16), Text.hexDigit (n % 16)] = some n := by
  decide

lemma readUnits_plain (hquote : c ≠ '\x22') (hslash : c ≠ '\\') (hc : ¬ c.toNat < 0x20) :
    readUnits seen (c :: rest) = readUnits (c.toNat :: seen) rest := by
  simp [readUnits, hslash, hc]

lemma readUnits_escape (c : Char) :
    readUnits seen (escape c ++ rest) = readUnits (c.toNat :: seen) rest := by
  rw [escape.eq_def]
  split
  iterate 7 exact rfl
  next hquote hslash _ _ _ _ _ =>
    split
    · next hc => simp [readUnits, control_digits _ hc]
    · next hc => exact readUnits_plain hquote hslash hc

lemma readUnits_quoted : readUnits seen (s.flatMap escape ++ '\x22' :: rest) =
    some (seen.reverse ++ s.map Char.toNat, rest) := by
  induction s generalizing seen with
  | nil => simp [readUnits]
  | cons c s ih =>
    rw [List.flatMap_cons, List.append_assoc, readUnits_escape, ih]
    simp

lemma joinSurrogates_char (c : Char) {units : List Nat} :
    joinSurrogates done (c.toNat :: units) = joinSurrogates (c :: done) units := by
  have hvalid : c.toNat < 0xD800 ∨ 0xDFFF < c.toNat ∧ c.toNat < 0x110000 := c.valid
  have hhalf : ¬ (0xD800 ≤ c.toNat ∧ c.toNat < 0xE000) := by omega
  have hfirst : ¬ (0xD800 ≤ c.toNat ∧ c.toNat < 0xDC00) := by omega
  have hsecond : ¬ (0xDC00 ≤ c.toNat ∧ c.toNat < 0xE000) := by omega
  cases units with
  | nil => simp [joinSurrogates, hhalf]
  | cons unit units => rw [joinSurrogates, if_neg hfirst, if_neg hsecond, Char.ofNat_toNat]

lemma joinSurrogates_chars : joinSurrogates done (s.map Char.toNat) = some (done.reverse ++ s) := by
  induction s generalizing done with
  | nil => simp [joinSurrogates]
  | cons c s ih =>
    rw [List.map_cons, joinSurrogates_char, ih]
    simp

lemma readString_quoted (s : String) :
    readString (s.toList.flatMap escape ++ '\x22' :: rest) = some (some s, rest) := by
  simp [readString, readUnits_quoted, joinSurrogates_chars]

lemma toList_quote (s : String) :
    (quote s).toList = '\x22' :: (s.toList.flatMap escape ++ ['\x22']) := by
  have hmark : "\"".toList = ['\x22'] := rfl
  simp only [quote, String.toList_append, String.toList_ofList, hmark, List.cons_append,
    List.nil_append]

variable {fuel : Nat}

lemma skipSpace_stop (h : isSpace c = false) : skipSpace (c :: s) = c :: s := by
  rw [skipSpace, List.dropWhile_cons_of_neg (by rw [h]; exact Bool.false_ne_true)]

lemma readValue_quoted (s : String) :
    readValue (fuel + 1) ((quote s).toList ++ rest) = ⟨.string s, some rest⟩ := by
  rw [toList_quote, List.cons_append, List.append_assoc, List.singleton_append, readValue,
    skipSpace_stop rfl]
  simp only [readString_quoted]

lemma readMembers_single (name value : String) :
    readMembers (fuel + 2) true []
      ((quote name).toList ++ ':' :: ((quote value).toList ++ '\x7d' :: rest)) =
      ⟨.object [(name, .string value)], some rest⟩ := by
  rw [toList_quote, List.cons_append, List.append_assoc, List.singleton_append, readMembers,
    skipSpace_stop rfl]
  simp only [readString_quoted, skipSpace_stop (c := ':') rfl, readValue_quoted]
  simp [skipSpace_stop (c := '\x7d') rfl, objectOf]

lemma readValue_object : readValue (fuel + 1) ('\x7b' :: '\x22' :: s) =
    readMembers fuel true [] ('\x22' :: s) := by
  rw [readValue, skipSpace_stop rfl]
  simp only [skipSpace_stop (c := '\x22') rfl]
  rfl

lemma toList_compact_member (name value : String) :
    (compact (.object [(name, .string value)])).toList =
      '\x7b' :: ((quote name).toList ++ ':' :: ((quote value).toList ++ ['\x7d'])) := by
  have hopen : "\x7b".toList = ['\x7b'] := rfl
  have hcolon : ":".toList = [':'] := rfl
  have hclose : "\x7d".toList = ['\x7d'] := rfl
  simp only [compact, leaf, compactMembers, String.toList_append, hopen, hcolon, hclose,
    List.append_assoc, List.cons_append, List.nil_append]

lemma parse?_compact_member (name value : String) :
    parse? (compact (.object [(name, .string value)])) = some (.object [(name, .string value)]) := by
  have hread : ∀ fuel, readValue (fuel + 3) (compact (.object [(name, .string value)])).toList =
      ⟨.object [(name, .string value)], some []⟩ := by
    intro fuel
    have hmembers : readMembers (fuel + 2) true [] _ = ⟨_, some []⟩ :=
      readMembers_single name value
    rw [toList_quote name, List.cons_append] at hmembers
    rw [toList_compact_member, toList_quote name, List.cons_append, readValue_object, hmembers]
  have hlength : 0 < (compact (.object [(name, .string value)])).length := by
    rw [← String.length_toList, toList_compact_member]
    exact Nat.succ_pos _
  obtain ⟨fuel, hfuel⟩ : ∃ fuel,
      2 * (compact (.object [(name, .string value)])).length + 2 = fuel + 3 :=
    ⟨_, (Nat.sub_add_cancel (by omega)).symm⟩
  rw [parse?, read, hfuel, hread]
  rfl

end Rollout.Json
