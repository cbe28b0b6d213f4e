import Rollout.Proofs.Yaml.Folding
import Rollout.Proofs.Yaml.Lines
import Rollout.Proofs.Yaml.Standing

/-! What may be read behind the colon of a key, where the text is any that comes to a letter. -/

namespace Rollout.Yaml

def AtLetter (t : List Char) : Prop := ∃ d ∈ t.head?, d.isAlpha = true

lemma letter_ne {d e : Char} (hd : d.isAlpha = true) (he : e.isAlpha = false) : d ≠ e := by
  rintro rfl
  rw [hd] at he
  cases he

section Letter

variable {d : Char} {t : List Char}

lemma isBlank_letter (h : d.isAlpha = true) : isBlank d = false := by
  simp [isBlank, letter_ne h (e := ' ') (by decide), letter_ne h (e := '\t') (by decide)]

lemma isBreak_letter (h : d.isAlpha = true) : isBreak d = false := by
  rw [← Bool.not_eq_true]
  intro hbreak
  simp only [isBreak, Bool.or_eq_true, beq_iff_eq] at hbreak
  rcases hbreak with (((rfl | rfl) | rfl) | rfl) | rfl <;> cases h

lemma isIndicator_letter (h : d.isAlpha = true) : Scanner.isIndicator d = false := by
  rw [← Bool.not_eq_true, Scanner.isIndicator, List.contains_iff_mem]
  intro hd
  have hnone : ("-?:,[]\x7b\x7d#&*!|>\x27\x22%@\x60".toList.all (!Char.isAlpha ·)) = true := by
    decide
  have hopen := List.all_eq_true.mp hnone d hd
  simp [h] at hopen

lemma AtLetter.atToken (h : AtLetter t) : AtToken t := by
  obtain ⟨d, hd, hletter⟩ := h
  intro e he
  rw [Option.mem_unique he hd]
  exact ⟨isBlank_letter hletter, isBreak_letter hletter, letter_ne hletter (by decide),
    letter_ne hletter (by decide)⟩

end Letter

lemma Cursor.skipWhile_cons {p : Char → Bool} {c : Cursor} {d : Char} {t : List Char}
    (hrest : c.rest = d :: t) (hd : p d = true) : c.skipWhile p = c.skip.skipWhile p := by
  simp [skipWhile, hrest, hd, skip, skipMany]

namespace Scanner

variable {s s' : Scanner} {g t : List Char} {fuel : Nat}

lemma toNext_blank {d : Char} (hrest : s.cursor.rest = d :: t)
    (hd : d = ' ' ∨ d = '\t' ∧ s.keyAllowed = false) :
    toNext (fuel + 1) s = toNext (fuel + 1) (s.moveTo s.cursor.skip) := by
  have hmark : d ≠ '\ufeff' := by rcases hd with rfl | ⟨rfl, -⟩ <;> decide
  have hblank : (d == ' ' || ((s.inFlow || !s.keyAllowed) && d == '\t')) = true := by
    rcases hd with rfl | ⟨rfl, hallowed⟩
    · rfl
    · simp [hallowed]
  have hskip :
      (s.cursor.skipWhile fun d => d == ' ' || ((s.inFlow || !s.keyAllowed) && d == '\t')) =
        s.cursor.skip.skipWhile fun d => d == ' ' || ((s.inFlow || !s.keyAllowed) && d == '\t') :=
    Cursor.skipWhile_cons hrest hblank
  have hstart : ¬(s.cursor.index = 0 ∧ s.cursor.rest.head? = some '\ufeff') := by
    simp [hrest, hmark]
  have hpast : ¬((s.moveTo s.cursor.skip).cursor.index = 0 ∧
      (s.moveTo s.cursor.skip).cursor.rest.head? = some '\ufeff') := by simp [moveTo, Cursor.skip]
  rw [toNext, toNext]
  simp only [hstart, hpast, if_false, hskip]
  rfl

lemma toNext_tab (hrest : s.cursor.rest = '\t' :: t) (hallowed : s.keyAllowed = true)
    (hflow : s.inFlow = false) : toNext fuel s = s := by
  cases fuel with
  | zero => rfl
  | succ fuel =>
    obtain ⟨⟨rest, index, line, column⟩, tokens, indents, keys, allowed⟩ := s
    cases hrest
    cases hallowed
    simp [toNext, Cursor.skipWhile, Cursor.skipMany, Cursor.skipComment, moveTo, hflow, atLineEnd,
      isBreak]

/-- A break at the front of a gap, and what a carriage return takes with it. -/
lemma skipLine_gap {c : Cursor} {d : Char} (hg : IsGap (d :: g)) (ht : AtToken t)
    (hrest : c.rest = d :: (g ++ t)) (hd : isBreak d = true) :
    ∃ g', IsGap g' ∧ g'.length ≤ g.length ∧ c.skipLine.rest = g' ++ t := by
  obtain ⟨u, hpass, hne, hu, -⟩ := Cursor.passes_skipLine hrest hd
  have hsplit : (d :: g) ++ t = u ++ c.skipLine.rest := hrest.symm.trans hpass.rest_eq
  have hpos : 0 < u.length := List.length_pos_iff.mpr hne
  rcases List.append_eq_append_iff.mp hsplit with ⟨a, rfl, ha⟩ | ⟨a, ha, hrest'⟩
  · cases a with
    | nil => exact ⟨[], by simp [IsGap], by simp, by simpa using ha.symm⟩
    | cons e a =>
      have hopen := (ht e (by rw [ha]; rfl)).2.1
      rw [hu e (by simp)] at hopen
      cases hopen
  · refine ⟨a, fun e he => hg e (by rw [ha]; exact List.mem_append_right u he), ?_, hrest'⟩
    have hlength := congrArg List.length ha
    simp only [List.length_cons, List.length_append] at hlength
    omega

/-- The scanner goes through a gap, or comes to a tab that it does not go through. -/
lemma toNext_gap (hg : IsGap g) (ht : AtToken t) (hrest : s.cursor.rest = g ++ t)
    (hfuel : g.length < fuel) (hflow : s.inFlow = false) :
    ∃ c g' allowed, toNext fuel s = { s with cursor := c, keyAllowed := allowed } ∧
      c.rest = g' ++ t ∧ (g' = [] ∨ g'.head? = some '\t') := by
  -- On the length of the gap, for a carriage return takes a line feed with it.
  induction hn : g.length using Nat.strong_induction_on generalizing g s fuel with
  | _ n ih =>
  cases hn
  cases g with
  | nil => exact ⟨s.cursor, [], s.keyAllowed, toNext_stay (by rwa [hrest]), hrest, .inl rfl⟩
  | cons d g =>
    obtain ⟨fuel, rfl⟩ : ∃ n, fuel = n + 1 := ⟨fuel - 1, by omega⟩
    have hg' : IsGap g := fun e he => hg e (List.mem_cons_of_mem d he)
    simp only [List.length_cons] at hfuel ih
    by_cases hd : isBreak d = true
    · obtain ⟨g', hgap, hlength, hrest'⟩ := skipLine_gap hg ht hrest hd
      obtain ⟨c, g'', allowed, hnext, hc⟩ := ih g'.length (by omega) hgap
        (s := { s with cursor := s.cursor.skipLine, keyAllowed := s.keyAllowed || !s.inFlow })
        hrest' (show g'.length < fuel by omega) hflow rfl
      exact ⟨c, g'', allowed, by rw [toNext_line hrest hd, hnext], hc⟩
    have hblank : d = ' ' ∨ d = '\t' := by
      simpa [isBlank] using (hg d List.mem_cons_self).resolve_right hd
    by_cases htab : d = '\t' ∧ s.keyAllowed = true
    · obtain ⟨rfl, hallowed⟩ := htab
      exact ⟨s.cursor, '\t' :: g, s.keyAllowed, toNext_tab hrest hallowed hflow, hrest, .inr rfl⟩
    · have hskip : d = ' ' ∨ d = '\t' ∧ s.keyAllowed = false := by
        rcases hblank with rfl | rfl
        · exact .inl rfl
        · exact .inr ⟨rfl, by simpa using htab⟩
      obtain ⟨c, g'', allowed, hnext, hc⟩ := ih g.length (by omega) hg'
        (s := s.moveTo s.cursor.skip) (by simp [moveTo, Cursor.skip, hrest])
        (show g.length < fuel + 1 by omega) hflow rfl
      exact ⟨c, g'', allowed, by rw [toNext_blank hrest hskip, hnext]; rfl, hc⟩

/-- What may stand in front where the value of a key was to be read out of `t`. -/
def IsValue (t : List Char) (first : Token) : Prop :=
  first = .key ∨ first = .blockMappingStart ∨
    ∃ text, first = .scalar (String.ofList text) .plain ∧
      (text = [] ∨ ∃ u rest, t = u ++ rest ∧ Folds u text rest)

lemma saveKey_fresh (hkeys : s.keys = [none]) (hs : s.saveKey = some s') :
    s'.cursor = s.cursor ∧ s'.tokens = s.tokens ∧ s'.indents = s.indents ∧
      s'.inFlow = false ∧ ∀ key ∈ s'.keys, ∀ k ∈ key, s.tokens.length ≤ k.number := by
  have hflow : s.inFlow = false := by simp [inFlow, hkeys]
  rw [saveKey, dropKey, hkeys] at hs
  split at hs
  · cases hs
    exact ⟨rfl, rfl, rfl, by simp [inFlow, hkeys], by simp [hkeys]⟩
  · cases hs
    exact ⟨rfl, rfl, rfl, hflow, by simp [hkeys]⟩

lemma plain_behind (hkeys : s.keys = [none]) (hrest : s.cursor.rest = t) (hleast : 0 < s.least)
    (hs : s.plain = some s') : Behind s.tokens (IsValue t) s' := by
  obtain ⟨s₁, hsave, hs⟩ := Option.bind_eq_some_iff.mp hs
  obtain ⟨hcursor, htokens, hindents, hflow, hnumbers⟩ := saveKey_fresh hkeys hsave
  obtain ⟨⟨text, broken, c⟩, hscalar, hs⟩ := Option.bind_eq_some_iff.mp hs
  have hleast' : s₁.least = s.least := by rw [least, hindents, least]
  rw [hflow, hcursor, hleast', plainScalar] at hscalar
  obtain ⟨⟨seen, gap, c'⟩, hwords, heq⟩ := Option.map_eq_some_iff.mp hscalar
  cases heq
  cases hs
  refine ⟨⟨[], _, congrArg _ htokens, .inr (.inr ⟨seen.reverse, rfl, ?_⟩)⟩, hnumbers⟩
  rcases plainWords_folds hleast hwords with rfl | ⟨u, text, rest, hu, rfl, hfolds⟩
  · exact .inl rfl
  · exact .inr ⟨u, rest, hrest ▸ hu, by simpa [Gap.fold, Gap.none] using hfolds⟩

lemma token_letter {d : Char} {behind : List Char} (hd : d.isAlpha = true)
    (hrest : s.cursor.rest = d :: behind) : s.token d behind = s.plain :=
  token_plain (isBlank_letter hd) (isBreak_letter hd) (isIndicator_letter hd)
    (atDocumentMarker_cons (letter_ne hd (by decide)) (letter_ne hd (by decide)) hrest)

lemma token_tab {behind : List Char} (hrest : s.cursor.rest = '\t' :: behind) :
    s.token '\t' behind = none := by
  have hmark : s.cursor.atDocumentMarker = false :=
    atDocumentMarker_cons (by decide) (by decide) hrest
  simp [token, hmark, isBlank]

/-- Behind the colon of a key stands a value read from the first letter on, if anything is read. -/
lemma run_value {c : Cursor} {tokens : List Token} {indents : List Nat} (hg : IsGap g)
    (ht : AtLetter t) (hrest : c.rest = g ++ t)
    (hs : run fuel ⟨c, tokens, 0 :: indents, [none], false⟩ = some s') :
    ∃ new first, s'.tokens = new ++ first :: tokens ∧ IsValue t first := by
  cases fuel with
  | zero => cases hs
  | succ fuel =>
    obtain ⟨c', g', allowed, hnext, hrest', hg'⟩ : ∃ c' g' allowed,
        toNext (c.rest.length + 1) ⟨c, tokens, 0 :: indents, [none], false⟩ =
          ⟨c', tokens, 0 :: indents, [none], allowed⟩ ∧
        c'.rest = g' ++ t ∧ (g' = [] ∨ g'.head? = some '\t') :=
      toNext_gap hg ht.atToken hrest (by rw [hrest, List.length_append]; omega) rfl
    have hstale : dropStale ⟨c', tokens, 0 :: indents, [none], allowed⟩ =
        some ⟨c', tokens, 0 :: indents, [none], allowed⟩ := rfl
    have hstay : unroll ⟨c', tokens, 0 :: indents, [none], allowed⟩ =
        ⟨c', tokens, 0 :: indents, [none], allowed⟩ := by
      have hin : ∀ i ∈ (0 :: indents).head?, i ≤ c'.column := by simp
      simp [unroll, inFlow, unrollTo_stay hin]
    have hfirst : ∀ d behind, c'.rest = d :: behind → ∃ s₁,
        token ⟨c', tokens, 0 :: indents, [none], allowed⟩ d behind = some s₁ ∧
          run fuel s₁ = some s' := by
      intro d behind hd
      rw [run, hnext, hstale] at hs
      simp only [Option.bind_eq_bind, Option.bind_some, hd, hstay] at hs
      exact Option.bind_eq_some_iff.mp hs
    rcases hg' with rfl | htab
    · obtain ⟨d, hd, hletter⟩ := ht
      obtain ⟨behind, rfl⟩ : ∃ behind, t = d :: behind := List.head?_eq_some_iff.mp hd
      obtain ⟨s₁, htoken, hs⟩ := hfirst d behind hrest'
      rw [token_letter hletter hrest'] at htoken
      have hbehind : Behind tokens (IsValue (d :: behind)) s₁ :=
        plain_behind (s := ⟨c', tokens, 0 :: indents, [none], allowed⟩) rfl hrest' (Nat.succ_pos 0)
          htoken
      exact (hbehind.run (.inl rfl) (.inr (.inl rfl)) hs).tokens
    · obtain ⟨g', rfl⟩ : ∃ tail, g' = '\t' :: tail := List.head?_eq_some_iff.mp htab
      obtain ⟨s₁, htoken, -⟩ := hfirst '\t' (g' ++ t) hrest'
      rw [token_tab hrest'] at htoken
      cases htoken

end Scanner

end Rollout.Yaml
