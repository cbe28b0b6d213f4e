import Mathlib.Data.List.Chain
import Mathlib.Data.List.TakeWhile
import Rollout.Yaml.Scalar

/-! What a plain scalar makes of the text that it is read from. -/

namespace Rollout.Yaml

/-- Neighbours within a plain scalar: no comment begins between them, and no key ends. -/
def Beside (a b : Char) : Prop := ¬(isBlank a = true ∧ b = '#') ∧ ¬(a = ':' ∧ isBlank b = true)

instance (a b : Char) : Decidable (Beside a b) := inferInstanceAs (Decidable (_ ∧ _))

/-- Text of one line that stays as it is in a plain scalar. -/
structure PlainLine (s : List Char) : Prop where
  unbroken : ∀ c ∈ s, isBreak c = false
  beside : s.IsChain Beside
  first : ∀ c ∈ s.head?, isBlank c = false
  last : ∀ c ∈ s.getLast?, isBlank c = false ∧ c ≠ ':'

instance (s : List Char) : Decidable (PlainLine s) :=
  decidable_of_iff
    (s.all (!isBreak ·) = true ∧ s.IsChain Beside ∧ s.head?.all (!isBlank ·) = true ∧
      s.getLast?.all (fun c => !isBlank c && c != ':') = true)
    ⟨fun ⟨unbroken, beside, first, last⟩ =>
      ⟨by simpa using unbroken, beside, by simpa [Option.all_eq_true] using first,
        by simpa [Option.all_eq_true] using last⟩,
      fun ⟨unbroken, beside, first, last⟩ =>
      ⟨by simpa using unbroken, beside, by simpa [Option.all_eq_true] using first,
        by simpa [Option.all_eq_true] using last⟩⟩

/-- Text that may stand on its own behind the colon of a key, and is read as it stands. -/
structure Unquoted (s : String) : Prop extends PlainLine s.toList where
  printable : ∀ c ∈ s.toList, isPrintable c = true

instance (s : String) : Decidable (Unquoted s) :=
  decidable_of_iff (PlainLine s.toList ∧ s.toList.all isPrintable = true)
    ⟨fun ⟨line, printable⟩ => ⟨line, List.all_eq_true.mp printable⟩,
      fun ⟨line, printable⟩ => ⟨line, List.all_eq_true.mpr printable⟩⟩

namespace Cursor

lemma skipMany_eq (n : Nat) (c : Cursor) :
    c.skipMany n = ⟨c.rest.drop n, c.index + n, c.line, c.column + n⟩ := by
  induction n generalizing c with
  | zero => rfl
  | succ n ih =>
    rw [skipMany, ih]
    simp [skip, Nat.add_comm, Nat.add_left_comm]

lemma skipLine_newline {c : Cursor} {t : List Char} (hrest : c.rest = '\n' :: t) :
    c.skipLine = ⟨t, c.index + 1, c.line + 1, 0⟩ := by
  rw [skipLine, hrest]
  rfl

lemma skipMany_add (m n : Nat) (c : Cursor) : (c.skipMany m).skipMany n = c.skipMany (m + n) := by
  simp [skipMany_eq, Nat.add_assoc]

end Cursor

/-- The word at the front of a text in a block. -/
def word : List Char → List Char
  | [] => []
  | d :: s => if atWordEnd (d :: s) || (d == ':' && atWordEnd s) then [] else d :: word s

section Word

variable {w s t : List Char}

lemma plainWord_eq {fuel : Nat} {seen : List Char} {c : Cursor} (hfuel : c.rest.length ≤ fuel) :
    plainWord false fuel seen c =
      some ((word c.rest).reverse ++ seen, c.skipMany (word c.rest).length) := by
  induction fuel generalizing seen c with
  | zero =>
    have hrest : c.rest = [] := List.eq_nil_of_length_eq_zero (Nat.le_zero.mp hfuel)
    simp [plainWord, hrest, word, Cursor.skipMany]
  | succ fuel ih =>
    rcases c with ⟨_ | ⟨d, s⟩, index, line, column⟩
    · simp [plainWord, word, Cursor.skipMany]
    · have hs : s.length ≤ fuel := by simpa using hfuel
      by_cases hend : atWordEnd (d :: s) = true
      · simp [plainWord, word, hend, Cursor.skipMany]
      by_cases hcolon : (d == ':' && atWordEnd s) = true
      · simp [plainWord, word, hend, hcolon, Cursor.skipMany]
      · have htail : plainWord false fuel (d :: seen) ⟨s, index + 1, line, column + 1⟩ =
            some ((word s).reverse ++ d :: seen,
              Cursor.skipMany (word s).length ⟨s, index + 1, line, column + 1⟩) := ih hs
        simp [plainWord, word, hend, hcolon, Cursor.skipMany, Cursor.skip, htail]

lemma word_append (hw : ∀ c ∈ w, isBlank c = false ∧ isBreak c = false)
    (hlast : w.getLast? ≠ some ':') (ht : word t = []) : word (w ++ t) = w := by
  induction w with
  | nil => exact ht
  | cons d w ih =>
    have hd := hw d List.mem_cons_self
    have htail : (d == ':' && atWordEnd (w ++ t)) = false := by
      cases w with
      | nil =>
        have hcolon : d ≠ ':' := by simpa using hlast
        simp [hcolon]
      | cons e w =>
        have he := hw e (by simp)
        simp [atWordEnd, he]
    have hw' := ih (fun c hc => hw c (List.mem_cons_of_mem d hc)) (by
      cases w with
      | nil => simp
      | cons e w => simpa using hlast)
    have hword : atWordEnd (d :: (w ++ t)) = false := by simp [atWordEnd, hd]
    rw [List.cons_append, word, hword, htail, hw']
    rfl

end Word

/-- A text at whose front a gap ends. -/
def AtText (t : List Char) : Prop := ∀ d ∈ t.head?, isBlank d = false ∧ isBreak d = false

section Gap

variable {indent fuel n : Nat} {gap : Gap} {c : Cursor} {g t : List Char}

lemma Gap.read_stop (ht : AtText c.rest) : Gap.read indent fuel gap c = some (gap, c) := by
  cases fuel with
  | zero => rfl
  | succ fuel =>
    rcases c with ⟨_ | ⟨d, s⟩, index, line, column⟩
    · rfl
    · have hd := ht d rfl
      simp [read, hd]

lemma Gap.read_blanks (hg : ∀ d ∈ g, isBlank d = true) (ht : AtText t)
    (hrest : c.rest = g ++ t) (hfuel : g.length ≤ fuel) (hopen : gap.broken = false) :
    Gap.read indent fuel gap c =
      some ({ gap with blanks := g.reverse ++ gap.blanks }, c.skipMany g.length) := by
  induction g generalizing fuel gap c with
  | nil => exact read_stop (by rwa [hrest])
  | cons d g ih =>
    cases fuel with
    | zero => simp at hfuel
    | succ fuel =>
      have hd : isBlank d = true := hg d List.mem_cons_self
      have hstep : read indent (fuel + 1) gap c =
          read indent fuel { gap with blanks := d :: gap.blanks } c.skip := by
        rw [read, hrest, List.cons_append]
        simp [hd, hopen]
      have hrest' : c.skip.rest = g ++ t := by simp [Cursor.skip, hrest]
      have htail : read indent fuel { gap with blanks := d :: gap.blanks } c.skip =
          some ({ gap with blanks := g.reverse ++ d :: gap.blanks }, c.skip.skipMany g.length) :=
        ih (fun e he => hg e (List.mem_cons_of_mem d he)) hrest'
          (Nat.le_of_succ_le_succ hfuel) hopen
      rw [hstep, htail]
      simp [Cursor.skipMany]

lemma Gap.read_indent (ht : AtText t) (hrest : c.rest = List.replicate n ' ' ++ t)
    (hfuel : n ≤ fuel) (hbroken : gap.broken = true) :
    Gap.read indent fuel gap c = some (gap, c.skipMany n) := by
  induction n generalizing fuel c with
  | zero => exact read_stop (by simpa [hrest] using ht)
  | succ n ih =>
    cases fuel with
    | zero => simp at hfuel
    | succ fuel =>
      rw [read, hrest, List.replicate_succ, List.cons_append]
      simp only [show isBlank ' ' = true from rfl, hbroken, Bool.not_true, if_true]
      rw [if_neg (by decide), if_neg (by simp),
        ih (by simp [Cursor.skip, hrest, List.replicate_succ]) (Nat.le_of_succ_le_succ hfuel)]
      rfl

lemma Gap.read_line (ht : AtText t) (hrest : c.rest = '\n' :: (List.replicate n ' ' ++ t))
    (hfuel : n < fuel) :
    Gap.none.read indent fuel c =
      some (⟨[], true, some '\n', []⟩, c.skipLine.skipMany n) := by
  cases fuel with
  | zero => simp at hfuel
  | succ fuel =>
    have hline : c.skipLine.rest = List.replicate n ' ' ++ t := by
      rw [Cursor.skipLine_newline hrest]
    rw [read, hrest]
    simp only [show isBlank '\n' = false from rfl, show isBreak '\n' = true from rfl, none,
      Bool.false_eq_true, if_false, if_true, show breakChar '\n' = '\n' from rfl]
    exact read_indent ht hline (Nat.le_of_lt_succ hfuel) rfl

end Gap

lemma exists_split (p : Char → Bool) (s : List Char) :
    ∃ u r, s = u ++ r ∧ (∀ c ∈ u, p c = true) ∧ ∀ c ∈ r.head?, p c = false := by
  refine ⟨s.takeWhile p, s.dropWhile p, List.takeWhile_append_dropWhile.symm,
    fun c hc => List.mem_takeWhile_imp hc, fun c hc => ?_⟩
  have h := List.head?_dropWhile_not p s
  rwa [hc] at h

section PlainLine

variable {s t : List Char}

/-- A line is a word, or a word and behind a gap another line. -/
lemma PlainLine.split (hs : PlainLine s) (hne : s ≠ []) :
    ∃ w g t, s = w ++ (g ++ t) ∧ w ≠ [] ∧ (∀ c ∈ w, isBlank c = false ∧ isBreak c = false) ∧
      w.getLast? ≠ some ':' ∧ (∀ d ∈ g, isBlank d = true) ∧
      (g = [] ∧ t = [] ∨ g ≠ [] ∧ t ≠ [] ∧ PlainLine t ∧ t.head? ≠ some '#') := by
  obtain ⟨w, r, rfl, hw, hr⟩ := exists_split (fun c => !isBlank c) s
  obtain ⟨g, t, rfl, hg, ht⟩ := exists_split isBlank r
  obtain ⟨hunbroken, hbeside, hfirst, hlast⟩ := hs
  obtain ⟨-, hbehind, hjoin⟩ := List.isChain_append.mp hbeside
  obtain ⟨-, htail, hborder⟩ := List.isChain_append.mp hbehind
  have hword : ∀ c ∈ w, isBlank c = false ∧ isBreak c = false := fun c hc =>
    ⟨by simpa using hw c hc, hunbroken c (List.mem_append_left _ hc)⟩
  have hwne : w ≠ [] := by
    rintro rfl
    rw [List.nil_append] at hne hfirst
    obtain ⟨d, u, hd⟩ := List.exists_cons_of_ne_nil hne
    rw [hd] at hfirst hr
    have hblank := hr d rfl
    simp [hfirst d rfl] at hblank
  refine ⟨w, g, t, rfl, hwne, hword, ?_, hg, ?_⟩
  all_goals rcases g with _ | ⟨b, g⟩
  · have ht : t = [] := by
      cases t with
      | nil => rfl
      | cons d t =>
        have hblank := hr d rfl
        simp [ht d rfl] at hblank
    intro hcolon
    exact (hlast ':' (by simpa [ht] using hcolon)).2 rfl
  · intro hcolon
    exact (hjoin ':' hcolon b rfl).2 ⟨rfl, hg b List.mem_cons_self⟩
  · left
    cases t with
    | nil => exact ⟨rfl, rfl⟩
    | cons d t =>
      have hblank := hr d rfl
      simp [ht d rfl] at hblank
  · right
    have hend : (b :: g).getLast? = some ((b :: g).getLast (by simp)) :=
      List.getLast?_eq_some_getLast (by simp)
    have hblank := hg _ (List.getLast_mem (by simp : b :: g ≠ []))
    have htne : t ≠ [] := by
      rintro rfl
      have hopen := hlast _ (by rw [List.append_nil, List.getLast?_append, hend]; rfl)
      simp [hblank] at hopen
    have htlast : (w ++ (b :: g ++ t)).getLast? = t.getLast? := by
      rw [List.getLast?_append, List.getLast?_append, List.getLast?_eq_some_getLast htne]
      rfl
    exact ⟨by simp, htne,
      ⟨fun c hc => hunbroken c (by simp [hc]), htail, ht, by rwa [htlast] at hlast⟩,
      fun hhash => (hborder _ hend '#' hhash).1 ⟨hblank, rfl⟩⟩

end PlainLine

section Words

variable {indent fuel : Nat} {gap : Gap} {c : Cursor} {seen : List Char}

lemma plainWords_stop
    (h : (c.atDocumentMarker || c.rest.head? == some '#') = true ∨ word c.rest = []) :
    plainWords false indent fuel seen gap c = some (seen, gap, c) := by
  cases fuel with
  | zero => rfl
  | succ fuel =>
    rw [plainWords, plainWord_eq le_rfl]
    rcases h with h | h
    · rw [if_pos h]
    · simp [h, Cursor.skipMany]

lemma plainWords_word (hhead : (c.atDocumentMarker || c.rest.head? == some '#') = false)
    (hword : word c.rest ≠ []) :
    plainWords false indent (fuel + 1) seen gap c =
      (Gap.none.read indent (c.skipMany (word c.rest).length).rest.length
        (c.skipMany (word c.rest).length)).bind fun (g, behind) =>
          if behind.index = (c.skipMany (word c.rest).length).index then
            some ((word c.rest).reverse ++ gap.fold ++ seen, .none,
              c.skipMany (word c.rest).length)
          else if behind.column < indent then
            some ((word c.rest).reverse ++ gap.fold ++ seen, g, behind)
          else
            plainWords false indent fuel ((word c.rest).reverse ++ gap.fold ++ seen) g behind := by
  rw [plainWords, hhead, plainWord_eq le_rfl, List.append_nil]
  obtain ⟨d, w, hw⟩ := List.exists_cons_of_ne_nil (List.reverse_ne_nil_iff.mpr hword)
  simp only [hw, Bool.false_eq_true, if_false]
  cases Gap.none.read indent (c.skipMany (word c.rest).length).rest.length
    (c.skipMany (word c.rest).length) with
  | none => rfl
  | some p => simp

end Words

/-- How a scalar ends at `c`, behind a word: with a gap that leads elsewhere, or with none. -/
def Ends (indent : Nat) (c : Cursor) (gap : Gap) (behind : Cursor) : Prop :=
  ∃ g c', Gap.none.read indent c.rest.length c = some (g, c') ∧
    if c'.index = c.index then gap = .none ∧ behind = c
    else c'.column < indent ∧ gap = g ∧ behind = c'

section Ends

variable {indent fuel n : Nat} {gap g : Gap} {c behind : Cursor} {s t seen : List Char}

lemma ends_colon (hrest : c.rest = ':' :: t) : Ends indent c .none c := by
  have htext : AtText c.rest := by
    rw [hrest]
    rintro d ⟨⟩
    decide
  exact ⟨.none, c, Gap.read_stop htext, by simp⟩

lemma ends_line (ht : AtText t) (hrest : c.rest = '\n' :: (List.replicate n ' ' ++ t))
    (hn : n < indent) :
    Ends indent c ⟨[], true, some '\n', []⟩ (c.skipLine.skipMany n) := by
  have hline := Cursor.skipLine_newline hrest
  have hfuel : n + 1 ≤ c.rest.length := by
    rw [hrest, List.length_cons, List.length_append, List.length_replicate]
    omega
  refine ⟨_, _, Gap.read_line ht hrest hfuel, ?_⟩
  rw [if_neg]
  · exact ⟨by simpa [hline, Cursor.skipMany_eq] using hn, rfl, rfl⟩
  · simp [hline, Cursor.skipMany_eq]
    omega

/-- A line is read as it is, up to where the scalar ends. -/
lemma plainWords_line (hs : PlainLine s) (hne : s ≠ []) (hhash : s.head? ≠ some '#')
    (hrest : c.rest = s ++ t) (ht : word t = []) (hmark : c.atDocumentMarker = false)
    (hindent : indent ≤ c.column + 1) (hfuel : s.length ≤ fuel)
    (hend : Ends indent (c.skipMany s.length) g behind) :
    plainWords false indent fuel seen gap c =
      some (s.reverse ++ (gap.fold ++ seen), g, behind) := by
  induction fuel generalizing s seen gap c with
  | zero => exact (hne (List.eq_nil_of_length_eq_zero (Nat.le_zero.mp hfuel))).elim
  | succ fuel ih =>
    obtain ⟨w, u, r, rfl, hwne, hw, hcolon, hu, hcase⟩ := hs.split hne
    have hhead : (c.atDocumentMarker || c.rest.head? == some '#') = false := by
      rw [hmark, hrest, List.head?_append_of_ne_nil _ hne]
      simpa using hhash
    have hword : word c.rest = w := by
      rw [hrest, List.append_assoc]
      refine word_append hw hcolon ?_
      rcases hcase with ⟨rfl, rfl⟩ | ⟨hune, -⟩
      · exact ht
      · obtain ⟨b, u, rfl⟩ := List.exists_cons_of_ne_nil hune
        simp [word, atWordEnd, hu b List.mem_cons_self]
    rw [plainWords_word hhead (by rwa [hword]), hword]
    rcases hcase with ⟨rfl, rfl⟩ | ⟨hune, hrne, hr, hrhash⟩
    · obtain ⟨g', c', hread, hcase⟩ := hend
      simp only [List.append_nil] at hread hcase ⊢
      rw [hread, Option.bind_some]
      dsimp only
      split at hcase
      · next hindex =>
        obtain ⟨rfl, rfl⟩ := hcase
        rw [if_pos hindex, List.append_assoc]
      · next hindex =>
        obtain ⟨hcolumn, rfl, rfl⟩ := hcase
        rw [if_neg hindex, if_pos hcolumn, List.append_assoc]
    · have hgap : (c.skipMany w.length).rest = u ++ (r ++ t) := by
        simp [Cursor.skipMany_eq, hrest]
      have htext : AtText (r ++ t) := by
        obtain ⟨d, r, rfl⟩ := List.exists_cons_of_ne_nil hrne
        rintro e ⟨⟩
        exact ⟨hr.first d rfl, hr.unbroken d List.mem_cons_self⟩
      have hupos : 0 < u.length := List.length_pos_iff.mpr hune
      rw [Gap.read_blanks hu htext hgap (by simp [hgap]) rfl, Option.bind_some]
      have hbehind : (c.skipMany w.length).skipMany u.length = c.skipMany (w.length + u.length) :=
        Cursor.skipMany_add _ _ _
      have hpast : 0 < w.length := List.length_pos_iff.mpr hwne
      simp only [hbehind]
      rw [if_neg (by simp [Cursor.skipMany_eq]; omega),
        if_neg (by simp [Cursor.skipMany_eq]; omega)]
      have hrest' : (c.skipMany (w.length + u.length)).rest = r ++ t := by
        rw [← hbehind, Cursor.skipMany_eq, hgap]
        simp
      have hmark' : (c.skipMany (w.length + u.length)).atDocumentMarker = false := by
        have hcolumn : (c.skipMany (w.length + u.length)).column ≠ 0 := by
          simp only [Cursor.skipMany_eq]
          omega
        simp [Cursor.atDocumentMarker, hcolumn]
      have hend' : Ends indent ((c.skipMany (w.length + u.length)).skipMany r.length) g behind := by
        rw [Cursor.skipMany_add]
        simpa [Nat.add_assoc] using hend
      have hlength : (w ++ (u ++ r)).length = w.length + (u.length + r.length) := by simp
      rw [ih hr hrne hrhash hrest' hmark' (by simp [Cursor.skipMany_eq]; omega) (by omega) hend']
      simp [Gap.fold, Gap.none]

lemma plainScalar_line (hs : PlainLine s) (hne : s ≠ []) (hhash : s.head? ≠ some '#')
    (hrest : c.rest = s ++ t) (ht : word t = []) (hmark : c.atDocumentMarker = false)
    (hindent : indent ≤ c.column + 1) (hend : Ends indent (c.skipMany s.length) g behind) :
    plainScalar false indent c = some (String.ofList s, g.broken, behind) := by
  have hfuel : s.length ≤ c.rest.length + 1 := by
    rw [hrest, List.length_append]
    omega
  rw [plainScalar, plainWords_line hs hne hhash hrest ht hmark hindent hfuel hend]
  simp [Gap.fold, Gap.none]

end Ends

end Rollout.Yaml
