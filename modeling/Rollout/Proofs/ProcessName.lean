import Rollout.Proofs.ProcessType
import Rollout.Proofs.Text.Split
import Rollout.Proofs.Text.Trim

/-! What a process may be called: the type that each text declares, or why it declares none. -/

namespace Rollout

namespace ProcessType

variable {c : Char} {text name : String} {answer : Except ProcessTypeError ProcessType}

def NameChar (c : Char) : Prop :=
  ('a' ≤ c ∧ c ≤ 'z') ∨ ('A' ≤ c ∧ c ≤ 'Z') ∨ ('0' ≤ c ∧ c ≤ '9') ∨ c = '-' ∨ c = '_'

lemma isLower_iff : c.isLower = true ↔ 'a' ≤ c ∧ c ≤ 'z' := by
  change (decide ('a' ≤ c) && decide (c ≤ 'z')) = true ↔ _
  rw [Bool.and_eq_true, decide_eq_true_iff, decide_eq_true_iff]

lemma isUpper_iff : c.isUpper = true ↔ 'A' ≤ c ∧ c ≤ 'Z' := by
  change decide ('A' ≤ c ∧ c ≤ 'Z') = true ↔ _
  rw [decide_eq_true_iff]

lemma isDigit_iff : c.isDigit = true ↔ '0' ≤ c ∧ c ≤ '9' := Char.isDigit_iff_toNat

lemma isNameChar_iff : isNameChar c = true ↔ NameChar c := by
  have hparts : isNameChar c =
      (c.isUpper || c.isLower || c.isDigit || c == '-' || c == '_') := rfl
  rw [hparts]
  simp only [Bool.or_eq_true, isLower_iff, isUpper_iff, isDigit_iff, beq_iff_eq, NameChar]
  tauto

inductive Verdict (name : String) : Except ProcessTypeError ProcessType → Prop
  | empty : name = "" → Verdict name (.error .empty)
  | foreign {before after : List Char} {c : Char} : name.toList = before ++ c :: after →
      (∀ d ∈ before, NameChar d) → ¬ NameChar c → Verdict name (.error (.invalidChar c))
  | reserved : (∀ c ∈ name.toList, NameChar c) → "web-deployment-".toList <+: name.toList →
      Verdict name (.error (.reservedForDeployment name))
  | declared : name ≠ "" → (∀ c ∈ name.toList, NameChar c) →
      ¬ "web-deployment-".toList <+: name.toList → Verdict name (.ok (ofName name))

/-- A reserved name is no `web` or `task`, so that the order of these two checks does not matter. -/
lemma not_reserved_of_named (h : name = "web" ∨ name = "task") :
    ¬ "web-deployment-".toList <+: name.toList := by
  rcases h with rfl | rfl <;> decide

lemma parse_plain (hne : Text.trim text ≠ "") (hplain : ∀ c ∈ (Text.trim text).toList, NameChar c) :
    parse text = if "web-deployment-".toList.isPrefixOf (Text.trim text).toList then
      .error (.reservedForDeployment (Text.trim text)) else .ok (ofName (Text.trim text)) := by
  have hempty : (Text.trim text).isEmpty = false :=
    Bool.eq_false_iff.mpr fun he => hne (String.isEmpty_iff.mp he)
  have hfind : (Text.trim text).toList.find? (fun c => !isNameChar c) = none :=
    List.find?_eq_none.mpr fun c hc => by simp [isNameChar_iff.mpr (hplain c hc)]
  rw [parse, ofName]
  simp only [hempty, hfind, Bool.false_eq_true, if_false]
  split
  · next hweb =>
    rw [if_neg fun h => not_reserved_of_named (.inl hweb) (List.isPrefixOf_iff_prefix.mp h)]
  · split
    · next htask =>
      rw [if_neg fun h => not_reserved_of_named (.inr htask) (List.isPrefixOf_iff_prefix.mp h)]
    · rfl

lemma parse_of_verdict (h : Verdict (Text.trim text) answer) : parse text = answer := by
  cases h with
  | empty hempty => rw [parse, if_pos (String.isEmpty_iff.mpr hempty)]
  | foreign hname hbefore hc =>
    rename_i before after c
    have hne : (Text.trim text).isEmpty = false := by
      rw [Bool.eq_false_iff, Ne, String.isEmpty_iff, ← String.toList_eq_nil_iff, hname]
      exact List.append_ne_nil_of_right_ne_nil _ (List.cons_ne_nil c after)
    have hforeign : isNameChar c = false := Bool.eq_false_iff.mpr fun h => hc (isNameChar_iff.mp h)
    have hfind : (Text.trim text).toList.find? (fun c => !isNameChar c) = some c := by
      rw [hname, List.find?_eq_some_iff_append]
      refine ⟨by rw [hforeign, Bool.not_false], before, after, rfl, fun d hd => ?_⟩
      simp [isNameChar_iff.mpr (hbefore d hd)]
    rw [parse]
    simp only [hne, hfind, Bool.false_eq_true, if_false]
  | reserved hplain hreserved =>
    have hne : Text.trim text ≠ "" := by
      intro he
      rw [he] at hreserved
      exact absurd hreserved (by decide)
    rw [parse_plain hne hplain, if_pos (List.isPrefixOf_iff_prefix.mpr hreserved)]
  | declared hne hplain hreserved =>
    rw [parse_plain hne hplain, if_neg fun h => hreserved (List.isPrefixOf_iff_prefix.mp h)]

lemma verdict_exists (name : String) : ∃ answer, Verdict name answer := by
  by_cases hempty : name = ""
  · exact ⟨_, .empty hempty⟩
  cases hfind : name.toList.find? fun c => !isNameChar c with
  | some c =>
    obtain ⟨hc, before, after, hname, hbefore⟩ := List.find?_eq_some_iff_append.mp hfind
    refine ⟨_, .foreign hname (fun d hd => ?_) fun hplain => ?_⟩
    · exact isNameChar_iff.mp (by simpa using hbefore d hd)
    · simp [isNameChar_iff.mpr hplain] at hc
  | none =>
    have hplain : ∀ c ∈ name.toList, NameChar c := fun c hc =>
      isNameChar_iff.mp (by simpa using List.find?_eq_none.mp hfind c hc)
    by_cases hreserved : "web-deployment-".toList <+: name.toList
    · exact ⟨_, .reserved hplain hreserved⟩
    · exact ⟨_, .declared hempty hplain hreserved⟩

lemma parse_eq_iff : parse text = answer ↔ Verdict (Text.trim text) answer := by
  refine ⟨?_, parse_of_verdict⟩
  rintro rfl
  obtain ⟨answer, h⟩ := verdict_exists (Text.trim text)
  rwa [parse_of_verdict h]

lemma isBlank_of_nameChar (h : NameChar c) : Text.isBlank c = false := by
  have hrange : 0x2D ≤ c.toNat ∧ c.toNat ≤ 0x7A := by
    simp only [NameChar, Char.le_def, UInt32.le_iff_toNat_le] at h
    rcases h with h | h | h | rfl | rfl
    · exact ⟨le_trans (by decide) h.1, le_trans h.2 (by decide)⟩
    · exact ⟨le_trans (by decide) h.1, le_trans h.2 (by decide)⟩
    · exact ⟨le_trans (by decide) h.1, le_trans h.2 (by decide)⟩
    · decide
    · decide
  exact Text.isBlank_of_visible (by omega) (by omega)

lemma trim_of_plain (h : ∀ c ∈ name.toList, NameChar c) : Text.trim name = name := by
  rw [Text.trim, Text.trimWhile_eq_self fun c hc => isBlank_of_nameChar (h c hc),
    String.ofList_toList]

lemma declared_of_parse {t : ProcessType} (h : parse text = .ok t) :
    t = ofName (Text.trim text) ∧ Verdict (Text.trim (Text.trim text)) (.ok t) := by
  have hverdict := parse_eq_iff.mp h
  cases hverdict with
  | declared hne hplain hreserved =>
    rw [trim_of_plain hplain]
    exact ⟨rfl, .declared hne hplain hreserved⟩

lemma trimmed_iff_eq_trim :
    Text.Trimmed Text.isBlank text.toList name.toList ↔ name = Text.trim text := by
  rw [Text.trimmed_iff, Text.trim, ← String.toList_inj, String.toList_ofList, eq_comm]

end ProcessType

open ProcessType

/--
A name without blanks around it is refused if it is empty, for its first character that no name has,
or if it is one of those that rollouts give. Any other is the label of the type that it declares,
which is `web` for that name alone and never the shadow of a rollout.
-/
theorem declared_types_read_back (text : String) :
    ∃ name : String,
      (∀ other : String, Text.Trimmed Text.isBlank text.toList other.toList ↔ other = name) ∧
      (∀ answer, parse text = answer ↔ Verdict name answer) ∧
      (∀ t, parse text = .ok t → ∀ d, t.label d = name ∧ parse (t.label d) = .ok t) ∧
      (parse text = .ok .web ↔ name = "web") ∧
      parse text ≠ .ok .deployingWeb := by
  refine ⟨Text.trim text, fun _ => trimmed_iff_eq_trim, fun _ => parse_eq_iff, ?_, ?_, ?_⟩
  · intro t h d
    obtain ⟨rfl, hverdict⟩ := declared_of_parse h
    rw [label_ofName]
    exact ⟨rfl, parse_eq_iff.mpr hverdict⟩
  · constructor
    · intro h
      exact ofName_inj.mp (declared_of_parse h).1.symm
    · intro hname
      have hchars : "web".toList.all isNameChar = true := by decide
      rw [parse_eq_iff, hname]
      exact .declared (by decide)
        (fun c hc => isNameChar_iff.mp (List.all_eq_true.mp hchars c hc)) (by decide)
  · intro h
    exact ofName_ne_deployingWeb (declared_of_parse h).1.symm

theorem declared_types_read_back_of_web :
    ∃ name : String, Text.Trimmed Text.isBlank "\u00a0web-deployment\n".toList name.toList ∧
      Verdict name (.ok (.worker "web-deployment")) ∧
      parse "\u00a0web-deployment\n" = .ok (.worker "web-deployment") ∧
      ∀ d, (ProcessType.worker "web-deployment").label d = name ∧
        parse ((ProcessType.worker "web-deployment").label d) = .ok (.worker "web-deployment") := by
  have hparse : parse "\u00a0web-deployment\n" = .ok (.worker "web-deployment") := by rfl
  obtain ⟨name, htrimmed, hverdict, hlabel, -, -⟩ :=
    declared_types_read_back "\u00a0web-deployment\n"
  exact ⟨name, (htrimmed name).mpr rfl, (hverdict _).mp hparse, hparse, hlabel _ hparse⟩

end Rollout
