import Mathlib.Tactic.Lemma
import Rollout.Yaml.Scanner

/-!
Tokens that are out stay where they are. The scanner puts a token before others only where a key
may have begun, and no key begins before what was there already.
-/

namespace Rollout.Yaml.Scanner

/--
The tokens begin with `old`, and `P` holds of the next. No key begins among the old ones; `P` is
meant to hold of what is put in front of a key.
-/
structure Behind (old : List Token) (P : Token → Prop) (s : Scanner) : Prop where
  tokens : ∃ new t, s.tokens = new ++ t :: old ∧ P t
  keys : ∀ key ∈ s.keys, ∀ k ∈ key, old.length ≤ k.number

variable {old : List Token} {P : Token → Prop} {s s' : Scanner} {t : Token} {n : Nat}

lemma insertIdx_within {new rest : List Token} (h : n ≤ new.length) :
    (new ++ rest).insertIdx n t = new.insertIdx n t ++ rest := by
  induction new generalizing n with
  | nil =>
    obtain rfl : n = 0 := Nat.le_zero.mp h
    rfl
  | cons a new ih =>
    cases n with
    | zero => rfl
    | succ n => simp [ih (Nat.le_of_succ_le_succ h)]

lemma exists_of_mem_mapM {α β : Type} {f : α → Option β} {as : List α} {bs : List β}
    (h : as.mapM f = some bs) : ∀ b ∈ bs, ∃ a ∈ as, f a = some b := by
  induction as generalizing bs with
  | nil =>
    cases h
    simp
  | cons a as ih =>
    rw [List.mapM_cons] at h
    obtain ⟨b, hb, h⟩ := Option.bind_eq_some_iff.mp h
    obtain ⟨rest, hrest, h⟩ := Option.bind_eq_some_iff.mp h
    cases h
    refine List.forall_mem_cons.mpr ⟨⟨a, List.mem_cons_self, hb⟩, fun c hc => ?_⟩
    obtain ⟨a', ha', hc⟩ := ih hrest c hc
    exact ⟨a', List.mem_cons_of_mem a ha', hc⟩

namespace Behind

lemma length_lt (h : Behind old P s) : old.length < s.tokens.length := by
  obtain ⟨new, t, htokens, -⟩ := h.tokens
  rw [htokens]
  simp
  omega

lemma push (tokens : List Token) (h : Behind old P s) :
    ∃ new t, tokens ++ s.tokens = new ++ t :: old ∧ P t := by
  obtain ⟨new, t, htokens, ht⟩ := h.tokens
  exact ⟨tokens ++ new, t, by rw [htokens, List.append_assoc], ht⟩

lemma emit (h : Behind old P s) : Behind old P (s.emit t) := ⟨h.push [t], h.keys⟩

lemma emitAt (h : Behind old P s) (hn : old.length ≤ n) (ht : n = old.length → P t) :
    Behind old P (s.emitAt n t) := by
  obtain ⟨new, first, htokens, hfirst⟩ := h.tokens
  refine ⟨?_, h.keys⟩
  rw [Scanner.emitAt, htokens]
  rcases Nat.eq_or_lt_of_le hn with rfl | hlt
  · refine ⟨new ++ [first], t, ?_, ht rfl⟩
    have hplace : (new ++ first :: old).length - old.length = (new ++ [first]).length := by
      simp
      omega
    have hsplit : new ++ first :: old = (new ++ [first]) ++ old := by simp
    rw [hplace, hsplit, insertIdx_within (Nat.le_refl _), List.insertIdx_length_self]
    simp
  · refine ⟨new.insertIdx ((new ++ first :: old).length - n) t, first, insertIdx_within ?_, hfirst⟩
    simp
    omega

lemma roll {column : Nat} (h : Behind old P s) (hn : old.length ≤ n) (ht : n = old.length → P t) :
    Behind old P (s.roll column n t) := by
  rw [Scanner.roll]
  split
  · exact ⟨(h.emitAt hn ht).tokens, h.keys⟩
  · exact h

lemma unrollTo (column : Nat) (indents : List Nat) (tokens : List Token) :
    ∃ ends, (Scanner.unrollTo column indents tokens).2 = ends ++ tokens := by
  induction indents generalizing tokens with
  | nil => exact ⟨[], rfl⟩
  | cons indent indents ih =>
    rw [Scanner.unrollTo]
    split
    · obtain ⟨ends, h⟩ := ih (.blockEnd :: tokens)
      exact ⟨ends ++ [.blockEnd], by rw [h, List.append_assoc]; rfl⟩
    · exact ⟨[], rfl⟩

lemma unroll (h : Behind old P s) : Behind old P s.unroll := by
  rw [Scanner.unroll]
  split
  · exact h
  · obtain ⟨ends, hends⟩ := unrollTo s.cursor.column s.indents s.tokens
    exact ⟨by simpa [hends] using h.push ends, h.keys⟩

lemma unrollAll (h : Behind old P s) : Behind old P s.unrollAll := by
  rw [Scanner.unrollAll]
  split
  · exact h
  · exact ⟨h.push _, h.keys⟩

lemma dropKey (h : Behind old P s) (hs : s.dropKey = some s') : Behind old P s' := by
  rw [Scanner.dropKey] at hs
  split at hs
  · next key keys hkeys =>
    split at hs
    · cases hs
    · cases hs
      refine ⟨h.tokens, List.forall_mem_cons.mpr ⟨by simp, fun k hk => h.keys k ?_⟩⟩
      rw [hkeys]
      exact List.mem_cons_of_mem _ hk
  · cases hs
    exact h

lemma saveKey (h : Behind old P s) (hs : s.saveKey = some s') : Behind old P s' := by
  rw [Scanner.saveKey] at hs
  split at hs
  · obtain ⟨s₁, hdrop, hs⟩ := Option.bind_eq_some_iff.mp hs
    have h₁ := h.dropKey hdrop
    cases hs
    refine ⟨h₁.tokens, List.forall_mem_cons.mpr
      ⟨?_, fun k hk => h₁.keys k (List.mem_of_mem_tail hk)⟩⟩
    rintro _ ⟨⟩
    exact Nat.le_of_lt h₁.length_lt
  · cases hs
    exact h

lemma dropStale (h : Behind old P s) (hs : s.dropStale = some s') : Behind old P s' := by
  rw [Scanner.dropStale] at hs
  obtain ⟨keys, hkeys, hs⟩ := Option.bind_eq_some_iff.mp hs
  cases hs
  refine ⟨h.tokens, fun key hkey k hk => ?_⟩
  obtain ⟨key', hkey', hf⟩ := exists_of_mem_mapM hkeys key hkey
  cases key' with
  | none =>
    cases hf
    cases hk
  | some k' =>
    dsimp only at hf
    split at hf
    · split at hf
      · cases hf
      · cases hf
        cases hk
    · cases hf
      exact h.keys _ hkey' _ hk

lemma toNext {fuel : Nat} (h : Behind old P s) : Behind old P (s.toNext fuel) := by
  induction fuel generalizing s with
  | zero => exact h
  | succ fuel ih =>
    rw [Scanner.toNext]
    generalize (if s.cursor.index = 0 ∧ s.cursor.rest.head? = some '\ufeff' then s.cursor.skip
      else s.cursor) = c
    split
    · exact ih ⟨h.tokens, h.keys⟩
    · exact ⟨h.tokens, h.keys⟩

lemma boundary {c : Cursor} (h : Behind old P s) (hs : s.boundary t c = some s') :
    Behind old P s' := by
  obtain ⟨s₁, hdrop, hs⟩ := Option.bind_eq_some_iff.mp hs
  have h₁ := h.unrollAll.dropKey hdrop
  cases hs
  exact ⟨h₁.push [t], h₁.keys⟩

lemma openFlow (h : Behind old P s) (hs : s.openFlow t = some s') : Behind old P s' := by
  obtain ⟨s₁, hsave, hs⟩ := Option.bind_eq_some_iff.mp hs
  have h₁ := h.saveKey hsave
  cases hs
  exact ⟨h₁.push [t], List.forall_mem_cons.mpr ⟨by simp, h₁.keys⟩⟩

lemma closeFlow (h : Behind old P s) (hs : s.closeFlow t = some s') : Behind old P s' := by
  obtain ⟨s₁, hdrop, hs⟩ := Option.bind_eq_some_iff.mp hs
  have h₁ := h.dropKey hdrop
  cases hs
  refine ⟨h₁.push [t], fun key hkey => h₁.keys key ?_⟩
  dsimp only at hkey
  split at hkey
  · exact List.mem_of_mem_tail hkey
  · exact hkey

lemma indicator {allowed : Bool} (h : Behind old P s) (hs : s.indicator t allowed = some s') :
    Behind old P s' := by
  obtain ⟨s₁, hdrop, hs⟩ := Option.bind_eq_some_iff.mp hs
  have h₁ := h.dropKey hdrop
  cases hs
  exact ⟨h₁.push [t], h₁.keys⟩

lemma blockHere (h : Behind old P s) (hs : s.blockHere t = some s') : Behind old P s' := by
  rw [Scanner.blockHere] at hs
  split at hs
  · cases hs
    exact h
  · split at hs
    · cases hs
      exact h.roll (Nat.le_of_lt h.length_lt) fun heq => absurd heq (Nat.ne_of_gt h.length_lt)
    · cases hs

lemma value (hkey : P .key) (hmapping : P .blockMappingStart) (h : Behind old P s)
    (hs : s.value = some s') : Behind old P s' := by
  rw [Scanner.value] at hs
  split at hs
  · next key keys hkeys =>
    have hn : old.length ≤ key.number := h.keys (some key) (by simp [hkeys]) key rfl
    have h₁ : Behind old P
        ((s.emitAt key.number .key).roll key.column key.number .blockMappingStart) :=
      (h.emitAt hn fun _ => hkey).roll hn fun _ => hmapping
    cases hs
    refine ⟨h₁.push [.value], List.forall_mem_cons.mpr ⟨by simp, fun k hk => h.keys k ?_⟩⟩
    rw [hkeys]
    exact List.mem_cons_of_mem _ hk
  · obtain ⟨s₁, hhere, hs⟩ := Option.bind_eq_some_iff.mp hs
    have h₁ := h.blockHere hhere
    cases hs
    exact ⟨h₁.push [.value], h₁.keys⟩

lemma node {read : Cursor → Option (Token × Cursor)} (h : Behind old P s)
    (hs : s.node read = some s') : Behind old P s' := by
  obtain ⟨s₁, hsave, hs⟩ := Option.bind_eq_some_iff.mp hs
  obtain ⟨⟨t, c⟩, -, hs⟩ := Option.bind_eq_some_iff.mp hs
  have h₁ := h.saveKey hsave
  cases hs
  exact ⟨h₁.push [t], h₁.keys⟩

lemma plain (h : Behind old P s) (hs : s.plain = some s') : Behind old P s' := by
  obtain ⟨s₁, hsave, hs⟩ := Option.bind_eq_some_iff.mp hs
  obtain ⟨⟨text, broken, c⟩, -, hs⟩ := Option.bind_eq_some_iff.mp hs
  have h₁ := h.saveKey hsave
  cases hs
  exact ⟨h₁.push [.scalar text .plain], h₁.keys⟩

lemma block {folded : Bool} (h : Behind old P s) (hs : s.block folded = some s') :
    Behind old P s' := by
  obtain ⟨s₁, hdrop, hs⟩ := Option.bind_eq_some_iff.mp hs
  obtain ⟨⟨text, c⟩, -, hs⟩ := Option.bind_eq_some_iff.mp hs
  have h₁ := h.dropKey hdrop
  cases hs
  exact ⟨h₁.push [_], h₁.keys⟩

lemma directive (h : Behind old P s) (hs : (do
      let s ← s.unrollAll.dropKey
      let (t, c) ← readDirective s.cursor
      return ((s.allowKey false).moveTo c).emit t) = some s') : Behind old P s' := by
  obtain ⟨s₁, hdrop, hs⟩ := Option.bind_eq_some_iff.mp hs
  obtain ⟨⟨t, c⟩, -, hs⟩ := Option.bind_eq_some_iff.mp hs
  have h₁ := h.unrollAll.dropKey hdrop
  cases hs
  exact ⟨h₁.push [t], h₁.keys⟩

lemma entry {start : Token} {allowed : Bool} (h : Behind old P s)
    (hs : (do (← s.blockHere start).indicator t allowed) = some s') : Behind old P s' := by
  obtain ⟨s₁, hhere, hs⟩ := Option.bind_eq_some_iff.mp hs
  exact (h.blockHere hhere).indicator hs

lemma token (hkey : P .key) (hmapping : P .blockMappingStart) {d : Char} {behind : List Char}
    (h : Behind old P s) (hs : s.token d behind = some s') : Behind old P s' := by
  -- Every branch of `token` is one of the operations above.
  have branch : ∀ {p : Prop} [Decidable p] {a b : Option Scanner},
      (a = some s' → Behind old P s') → (b = some s' → Behind old P s') →
        (if p then a else b) = some s' → Behind old P s' := by
    intro p _ a b ha hb h
    split at h
    · exact ha h
    · exact hb h
  rw [Scanner.token] at hs
  revert hs
  refine branch h.directive <| branch h.boundary <| branch h.openFlow <| branch h.openFlow <|
    branch h.closeFlow <| branch h.closeFlow <| branch h.indicator <| branch h.entry <|
    branch h.entry <| branch (h.value hkey hmapping) <| branch h.node <| branch h.node <|
    branch h.node <| branch h.block <| branch h.block <| branch h.node <| branch h.plain ?_
  rintro ⟨⟩

lemma run (hkey : P .key) (hmapping : P .blockMappingStart) {fuel : Nat}
    (h : Behind old P s) (hs : s.run fuel = some s') : Behind old P s' := by
  induction fuel generalizing s with
  | zero => cases hs
  | succ fuel ih =>
    rw [Scanner.run] at hs
    obtain ⟨s₁, hstale, hs⟩ := Option.bind_eq_some_iff.mp hs
    have h₁ := h.toNext.dropStale hstale
    split at hs
    · exact h₁.boundary hs
    · obtain ⟨s₂, htoken, hs⟩ := Option.bind_eq_some_iff.mp hs
      exact ih (token hkey hmapping h₁.unroll htoken) hs

end Behind

end Rollout.Yaml.Scanner
