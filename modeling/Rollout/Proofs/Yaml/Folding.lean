import Rollout.Proofs.Yaml.Plain

/-! A plain scalar that is as long as the text it is read from is that text. -/

namespace Rollout.Yaml

/-- What is consumed between two places of a text. -/
structure Cursor.Passes (u : List Char) (c behind : Cursor) : Prop where
  rest_eq : c.rest = u ++ behind.rest
  index_eq : behind.index = c.index + u.length

namespace Cursor

lemma Passes.refl (c : Cursor) : Passes [] c c := ⟨rfl, rfl⟩

lemma Passes.trans {u v : List Char} {a b c : Cursor} (h : Passes u a b) (h' : Passes v b c) :
    Passes (u ++ v) a c :=
  ⟨by rw [h.rest_eq, h'.rest_eq, List.append_assoc], by
    rw [h'.index_eq, h.index_eq, List.length_append, Nat.add_assoc]⟩

lemma passes_skip {c : Cursor} {d : Char} {s : List Char} (hrest : c.rest = d :: s) :
    Passes [d] c c.skip := ⟨by simp [skip, hrest], rfl⟩

lemma passes_skipLine {c : Cursor} {d : Char} {s : List Char} (hrest : c.rest = d :: s)
    (hd : isBreak d = true) :
    ∃ u, Passes u c c.skipLine ∧ u ≠ [] ∧ (∀ e ∈ u, isBreak e = true) ∧ c.skipLine.column = 0 := by
  unfold skipLine
  split
  · next h =>
    exact ⟨['\r', '\n'], ⟨h, rfl⟩, by simp, by simp [isBreak], rfl⟩
  · next e s' _ h =>
    obtain ⟨rfl, rfl⟩ := List.cons.inj (hrest.symm.trans h)
    exact ⟨[d], ⟨h, rfl⟩, by simp, by simpa using hd, rfl⟩
  · next h => simp [hrest] at h

end Cursor

def IsGap (u : List Char) : Prop := ∀ d ∈ u, isBlank d = true ∨ isBreak d = true

def EndsBlank (u : List Char) : Prop := ∃ b ∈ u.getLast?, isBlank b = true

lemma EndsBlank.append {u v : List Char} (h : EndsBlank v) : EndsBlank (u ++ v) := by
  obtain ⟨b, hb, hblank⟩ := h
  exact ⟨b, by rw [List.getLast?_append, Option.mem_def.mp hb]; rfl, hblank⟩

namespace Gap

variable {indent fuel : Nat} {gap g : Gap} {c behind : Cursor}

lemma length_fold_le (h : g.broken = true) : g.fold.length ≤ g.more.length + 1 := by
  unfold fold
  rw [if_pos h]
  split
  · split <;> simp
  · simp
  · simp

/--
How a gap grows on a new line: it keeps no more than the breaks, and a text that does not stand at
the beginning of its line has blanks before it.
-/
def Grows (gap : Gap) (c : Cursor) (g : Gap) (behind : Cursor) : Prop :=
  ∃ u, Cursor.Passes u c behind ∧ IsGap u ∧ g.broken = true ∧
    g.more.length ≤ gap.more.length + u.length ∧
    (u = [] ∧ behind = c ∨ behind.column = 0 ∨
      g.more.length < gap.more.length + u.length ∧ EndsBlank u)

lemma Grows.refl (hbroken : gap.broken = true) : Grows gap c gap c :=
  ⟨[], .refl c, by simp [IsGap], hbroken, by simp, .inl ⟨rfl, rfl⟩⟩

lemma Grows.blank {d : Char} {s : List Char} (h : Grows gap c.skip g behind)
    (hrest : c.rest = d :: s) (hd : isBlank d = true) : Grows gap c g behind := by
  obtain ⟨u, hpass, hu, hbroken, hmore, hcase⟩ := h
  refine ⟨d :: u, (Cursor.passes_skip hrest).trans hpass,
    List.forall_mem_cons.mpr ⟨.inl hd, hu⟩, hbroken, by simp; omega, .inr ?_⟩
  rcases hcase with ⟨rfl, -⟩ | hcolumn | ⟨hless, hblank⟩
  · exact .inr ⟨by simpa using Nat.lt_succ_of_le hmore, d, rfl, hd⟩
  · exact .inl hcolumn
  · exact .inr ⟨by simp; omega, hblank.append (u := [d])⟩

lemma Grows.line {d b : Char} {s : List Char}
    (h : Grows { gap with more := b :: gap.more } c.skipLine g behind) (hrest : c.rest = d :: s)
    (hd : isBreak d = true) : Grows gap c g behind := by
  obtain ⟨u, hpass, hu, hbroken, hmore, hcase⟩ := h
  obtain ⟨v, hpass', hne, hv, hcolumn⟩ := Cursor.passes_skipLine hrest hd
  have hpos : 0 < v.length := List.length_pos_iff.mpr hne
  have hgap : IsGap (v ++ u) := List.forall_mem_append.mpr ⟨fun e he => .inr (hv e he), hu⟩
  simp only [List.length_cons] at hmore hcase
  refine ⟨v ++ u, hpass'.trans hpass, hgap, hbroken, by simp; omega, .inr ?_⟩
  rcases hcase with ⟨-, rfl⟩ | hcolumn | ⟨hless, hblank⟩
  · exact .inl hcolumn
  · exact .inl hcolumn
  · exact .inr ⟨by simp; omega, hblank.append⟩

lemma read_broken (h : Gap.read indent fuel gap c = some (g, behind))
    (hbroken : gap.broken = true) : Grows gap c g behind := by
  induction fuel generalizing gap c with
  | zero =>
    cases h
    exact .refl hbroken
  | succ fuel ih =>
    rw [read] at h
    split at h
    · next d s hrest =>
      rw [hbroken] at h
      split at h
      · next hd =>
        simp only [Bool.not_true, Bool.false_eq_true, if_false] at h
        split at h
        · cases h
        · exact (ih h hbroken).blank hrest hd
      · split at h
        · next hd => exact (ih h rfl).line hrest hd
        · cases h
          exact .refl hbroken
    · cases h
      exact .refl hbroken

/-- A gap on one line stays as it is; one that leads to an indented line shrinks. -/
lemma read_open (h : Gap.read indent fuel gap c = some (g, behind)) (hopen : gap.broken = false) :
    ∃ u, Cursor.Passes u c behind ∧ IsGap u ∧
      ((∀ d ∈ u, isBlank d = true) ∧ g.fold = u.reverse ++ gap.blanks ∨
        (behind.column ≠ 0 → g.fold.length < u.length ∧ EndsBlank u)) := by
  induction fuel generalizing gap c with
  | zero =>
    cases h
    exact ⟨[], .refl _, by simp [IsGap], .inl (by simp [fold, hopen])⟩
  | succ fuel ih =>
    rw [read] at h
    split at h
    · next d s hrest =>
      rw [hopen] at h
      split at h
      · next hd =>
        simp only [Bool.not_false, if_true] at h
        obtain ⟨u, hpass, hu, hcase⟩ := ih h rfl
        refine ⟨d :: u, (Cursor.passes_skip hrest).trans hpass,
          List.forall_mem_cons.mpr ⟨.inl hd, hu⟩, ?_⟩
        rcases hcase with ⟨hblank, hfold⟩ | hbroken
        · exact .inl ⟨List.forall_mem_cons.mpr ⟨hd, hblank⟩, by simpa using hfold⟩
        · exact .inr fun hcolumn =>
            ⟨(hbroken hcolumn).1.trans (by simp), (hbroken hcolumn).2.append (u := [d])⟩
      · split at h
        · next hd =>
          obtain ⟨u, hpass, hu, hbroken, -, hcase⟩ := read_broken h rfl
          obtain ⟨v, hpass', hne, hv, hline⟩ := Cursor.passes_skipLine hrest hd
          have hfold := length_fold_le hbroken
          have hpos : 0 < v.length := List.length_pos_iff.mpr hne
          refine ⟨v ++ u, hpass'.trans hpass,
            List.forall_mem_append.mpr ⟨fun e he => .inr (hv e he), hu⟩, .inr fun hcolumn => ?_⟩
          rcases hcase with ⟨-, rfl⟩ | hzero | ⟨hless, hblank⟩
          · exact (hcolumn hline).elim
          · exact (hcolumn hzero).elim
          · simp only [List.length_nil, Nat.zero_add] at hless
            exact ⟨by simp; omega, hblank.append⟩
        · cases h
          exact ⟨[], .refl _, by simp [IsGap], .inl (by simp [fold, hopen])⟩
    · cases h
      exact ⟨[], .refl _, by simp [IsGap], .inl (by simp [fold, hopen])⟩

end Gap

/-- How a text `u`, with `rest` behind it, may be read as the text `t` of a scalar. -/
structure Folds (u t rest : List Char) : Prop where
  first : ∃ d ∈ u.head?, d ∈ t.head? ∧ isBlank d = false ∧ isBreak d = false ∧ d ≠ '#'
  last : ∃ e ∈ u.getLast?, isBlank e = false ∧ isBreak e = false ∧
    (e = ':' → atWordEnd rest = false)
  lines : u.IsChain fun a b => isBreak a = true → isBlank b = true ∨ isBreak b = true
  shrinks : t.length < u.length ∨ t = u ∧ u.IsChain Beside ∧ ∀ c ∈ u, isBreak c = false

section Folds

variable {w g u t r f rest : List Char}

lemma word_spec (r : List Char) : ∃ rest, r = word r ++ rest ∧
    (∀ c ∈ word r, isBlank c = false ∧ isBreak c = false) ∧
    ((word r).getLast? = some ':' → atWordEnd rest = false) := by
  induction r with
  | nil => exact ⟨[], by simp [word]⟩
  | cons d s ih =>
    rw [word]
    split
    · exact ⟨d :: s, by simp⟩
    · next h =>
      obtain ⟨rest, hs, hword, hlast⟩ := ih
      simp only [atWordEnd, Bool.or_eq_true, Bool.and_eq_true, beq_iff_eq, not_or, not_and,
        Bool.not_eq_true] at h
      refine ⟨rest, by rw [List.cons_append, ← hs], List.forall_mem_cons.mpr ⟨h.1, hword⟩, ?_⟩
      intro hcolon
      cases hw : word s with
      | nil =>
        rw [hw] at hcolon hs
        rw [← List.nil_append rest, ← hs]
        exact h.2 (by simpa using hcolon)
      | cons e w =>
        rw [hw] at hcolon hlast
        exact hlast (by simpa using hcolon)

lemma isChain_word (hw : ∀ c ∈ w, isBlank c = false ∧ isBreak c = false) : w.IsChain Beside := by
  refine List.Pairwise.isChain (List.pairwise_of_forall_mem_list fun a ha b hb => ?_)
  exact ⟨fun h => by simp [hw a ha] at h, fun h => by simp [hw b hb] at h⟩

lemma folds_word (hw : ∀ c ∈ w, isBlank c = false ∧ isBreak c = false) (hne : w ≠ [])
    (hhash : w.head? ≠ some '#') (hcolon : w.getLast? = some ':' → atWordEnd rest = false) :
    Folds w w rest where
  first := by
    obtain ⟨d, w, rfl⟩ := List.exists_cons_of_ne_nil hne
    have hd := hw d List.mem_cons_self
    exact ⟨d, rfl, rfl, hd.1, hd.2, by simpa using hhash⟩
  last := by
    have hlast : w.getLast? = some (w.getLast hne) := List.getLast?_eq_some_getLast hne
    have he := hw _ (List.getLast_mem hne)
    exact ⟨_, hlast, he.1, he.2, fun h => hcolon (by rw [hlast, h])⟩
  lines := (isChain_word hw).imp_of_mem_imp fun a b ha _ _ h => by simp [hw a ha] at h
  shrinks := .inr ⟨rfl, isChain_word hw, fun c hc => (hw c hc).2⟩

lemma isBreak_of_isBlank {c : Char} (h : isBlank c = true) : isBreak c = false := by
  simp only [isBlank, Bool.or_eq_true, beq_iff_eq] at h
  rcases h with rfl | rfl <;> decide

lemma beside_of_isBlank {a b : Char} (ha : isBlank a = true) (hb : isBlank b = true) : Beside a b :=
  ⟨fun h => by simp [h.2, isBlank] at hb, fun h => by simp [h.1, isBlank] at ha⟩

lemma EndsBlank.of_blank (hne : g ≠ []) (hg : ∀ d ∈ g, isBlank d = true) : EndsBlank g :=
  ⟨_, List.getLast?_eq_some_getLast hne, hg _ (List.getLast_mem hne)⟩

lemma getLast?_append_append (w g : List Char) {e : Char} (h : u.getLast? = some e) :
    (w ++ (g ++ u)).getLast? = some e := by
  rw [List.getLast?_append, List.getLast?_append, h]
  rfl

lemma Folds.append (h : Folds u t rest) (hw : ∀ c ∈ w, isBlank c = false ∧ isBreak c = false)
    (hne : w ≠ []) (hhash : w.head? ≠ some '#') (hcolon : w.getLast? ≠ some ':')
    (hg : IsGap g) (hblank : EndsBlank g)
    (hshrinks : f.length < g.length ∨ f = g ∧ ∀ d ∈ g, isBlank d = true) :
    Folds (w ++ (g ++ u)) (w ++ (f ++ t)) rest where
  first := by
    obtain ⟨d, w, rfl⟩ := List.exists_cons_of_ne_nil hne
    have hd := hw d List.mem_cons_self
    exact ⟨d, rfl, rfl, hd.1, hd.2, by simpa using hhash⟩
  last := by
    obtain ⟨e, he, hlast⟩ := h.last
    exact ⟨e, getLast?_append_append w g he, hlast⟩
  lines := by
    obtain ⟨b, hb, hblank⟩ := hblank
    refine List.isChain_append.mpr ⟨?_, List.isChain_append.mpr ⟨?_, h.lines, ?_⟩, ?_⟩
    · exact (isChain_word hw).imp_of_mem_imp fun a b ha _ _ h => by simp [hw a ha] at h
    · exact List.Pairwise.isChain
        (List.pairwise_of_forall_mem_list fun a _ b hb _ => hg b hb)
    · intro a ha c _ hbreak
      rw [Option.mem_unique ha hb, isBreak_of_isBlank hblank] at hbreak
      cases hbreak
    · intro a ha c _ hbreak
      rw [(hw a (List.mem_of_getLast? ha)).2] at hbreak
      cases hbreak
  shrinks := by
    obtain ⟨d, hd, -, -, -, hd'⟩ := h.first
    rcases hshrinks with hless | ⟨rfl, hall⟩
    · have hle : t.length ≤ u.length := by
        rcases h.shrinks with hless | ⟨rfl, -⟩
        · exact hless.le
        · rfl
      exact .inl (by simp only [List.length_append]; omega)
    rcases h.shrinks with hless | ⟨rfl, hbeside, hunbroken⟩
    · exact .inl (by simp only [List.length_append]; omega)
    have hgap : f.IsChain Beside := List.Pairwise.isChain <|
      List.pairwise_of_forall_mem_list fun a ha b hb => beside_of_isBlank (hall a ha) (hall b hb)
    refine .inr ⟨rfl, List.isChain_append.mpr ⟨isChain_word hw,
      List.isChain_append.mpr ⟨hgap, hbeside, ?_⟩, ?_⟩, ?_⟩
    · intro a ha c hc
      rw [Option.mem_unique hc hd]
      have hblank := hall a (List.mem_of_getLast? ha)
      exact ⟨fun h => hd' h.2, fun h => by simp [h.1, isBlank] at hblank⟩
    · intro a ha c _
      have hopen := (hw a (List.mem_of_getLast? ha)).1
      exact ⟨fun h => by simp [hopen] at h, fun h => hcolon (by rw [← h.1]; exact ha)⟩
    · intro c hc
      rcases List.mem_append.mp hc with hc | hc
      · exact (hw c hc).2
      rcases List.mem_append.mp hc with hc | hc
      · exact isBreak_of_isBlank (hall c hc)
      · exact hunbroken c hc

end Folds

lemma atWordEnd_gap {g rest : List Char} (hg : IsGap g) (hne : g ≠ []) :
    atWordEnd (g ++ rest) = true := by
  obtain ⟨d, g, rfl⟩ := List.exists_cons_of_ne_nil hne
  simpa [atWordEnd] using hg d List.mem_cons_self

/-- Whatever the text, the words of a scalar fold the text from the first to the last of them. -/
lemma plainWords_folds {indent fuel : Nat} {gap g : Gap} {c behind : Cursor}
    {seen seen' : List Char} (hindent : 0 < indent)
    (h : plainWords false indent fuel seen gap c = some (seen', g, behind)) :
    seen' = seen ∨ ∃ u t rest, c.rest = u ++ rest ∧ seen' = t.reverse ++ (gap.fold ++ seen) ∧
      Folds u t rest := by
  induction fuel generalizing seen gap c with
  | zero =>
    cases h
    exact .inl rfl
  | succ fuel ih =>
    by_cases hstop : (c.atDocumentMarker || c.rest.head? == some '#') = true ∨ word c.rest = []
    · rw [plainWords_stop hstop] at h
      cases h
      exact .inl rfl
    obtain ⟨hhead, hne⟩ := not_or.mp hstop
    rw [Bool.not_eq_true] at hhead
    rw [plainWords_word hhead hne] at h
    obtain ⟨after, hrest, hw, hcolon⟩ := word_spec c.rest
    have hhash : (word c.rest).head? ≠ some '#' := by
      have hfront : c.rest.head? = (word c.rest).head? := by
        conv_lhs => rw [hrest]
        exact List.head?_append_of_ne_nil _ hne
      rw [← hfront]
      simp only [Bool.or_eq_false_iff, beq_eq_false_iff_ne] at hhead
      exact hhead.2
    generalize word c.rest = w at *
    have hone : ∃ u t rest, c.rest = u ++ rest ∧
        w.reverse ++ gap.fold ++ seen = t.reverse ++ (gap.fold ++ seen) ∧ Folds u t rest :=
      ⟨w, w, after, hrest, List.append_assoc .., folds_word hw hne hhash hcolon⟩
    obtain ⟨⟨g', c'⟩, hread, h⟩ := Option.bind_eq_some_iff.mp h
    dsimp only at h
    split at h
    · cases h
      exact .inr hone
    · next hindex =>
      split at h
      · cases h
        exact .inr hone
      · next hcolumn =>
        -- The gap counts only if a word follows it.
        rcases ih h with rfl | ⟨u, t, rest, hu, rfl, hfolds⟩
        · exact .inr hone
        · obtain ⟨v, hpass, hv, hcase⟩ := Gap.read_open hread rfl
          have hafter : after = v ++ (u ++ rest) := by
            have hskip := hpass.rest_eq
            rw [hu] at hskip
            simpa [Cursor.skipMany_eq, hrest] using hskip
          have hvne : v ≠ [] := by
            rintro rfl
            exact hindex hpass.index_eq
          have hcolon' : w.getLast? ≠ some ':' := fun h => by
            have hopen := hcolon h
            rw [hafter, atWordEnd_gap hv hvne] at hopen
            cases hopen
          have hspan : EndsBlank v ∧ (g'.fold.reverse.length < v.length ∨
              g'.fold.reverse = v ∧ ∀ d ∈ v, isBlank d = true) := by
            rcases hcase with ⟨hblank, hfold⟩ | hbroken
            · exact ⟨.of_blank hvne hblank, .inr ⟨by simp [hfold, Gap.none], hblank⟩⟩
            · have hless := hbroken (by omega)
              exact ⟨hless.2, .inl (by simpa using hless.1)⟩
          refine .inr ⟨w ++ (v ++ u), w ++ (g'.fold.reverse ++ t), rest, ?_, ?_,
            hfolds.append hw hne hhash hcolon' hv hspan.1 hspan.2⟩
          · rw [hrest, hafter]
            simp
          · simp

/-- Nothing of a comment below is read, so a text that is read as it stands is all of its line. -/
lemma folds_comment {s t u rest : List Char} (h : Folds u s rest)
    (hrest : s ++ '\n' :: '#' :: t = u ++ rest) : u = s ∧ rest = '\n' :: '#' :: t := by
  obtain ⟨e, he, -, hbreak, -⟩ := h.last
  rcases List.append_eq_append_iff.mp hrest with ⟨a, rfl, ha⟩ | ⟨a, rfl, ha⟩
  · match a, ha with
    | [], ha => exact ⟨List.append_nil s, ha.symm⟩
    | [_], ha =>
      cases ha
      rw [List.getLast?_concat] at he
      cases he
      cases hbreak
    | _ :: _ :: a, ha =>
      cases ha
      obtain ⟨-, hlines, -⟩ := List.isChain_append.mp h.lines
      obtain ⟨hlines, -⟩ := List.isChain_cons_cons.mp hlines
      exact absurd (hlines rfl) (by decide)
  · rcases h.shrinks with hless | ⟨hsame, -⟩
    · rw [List.length_append] at hless
      omega
    · rw [List.append_right_eq_self.mp hsame] at ha ⊢
      exact ⟨(List.append_nil u).symm, ha⟩

lemma plainLine_of_folds {s t u rest : List Char} (h : Folds u s rest)
    (hrest : s ++ '\n' :: '#' :: t = u ++ rest) : PlainLine s := by
  obtain ⟨rfl, rfl⟩ := folds_comment h hrest
  obtain ⟨d, hd, -, hblank, -⟩ := h.first
  obtain ⟨e, he, hopen, -, hcolon⟩ := h.last
  rcases h.shrinks with hless | ⟨-, hbeside, hunbroken⟩
  · exact (Nat.lt_irrefl _ hless).elim
  refine ⟨hunbroken, hbeside, fun c hc => ?_, fun c hc => ?_⟩
  · rwa [Option.mem_unique hc hd]
  · rw [Option.mem_unique hc he]
    exact ⟨hopen, fun h => absurd (hcolon h) (by simp [atWordEnd, isBreak])⟩

end Rollout.Yaml
