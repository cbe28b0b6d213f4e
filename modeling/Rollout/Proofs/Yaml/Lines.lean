import Rollout.Proofs.Yaml.Plain
import Rollout.Yaml.Scanner

/-! How the scanner goes through the lines of block mappings. -/

namespace Rollout.Yaml

/-- A text at whose front a token is, or nothing. -/
def AtToken (t : List Char) : Prop :=
  ∀ d ∈ t.head?, isBlank d = false ∧ isBreak d = false ∧ d ≠ '#' ∧ d ≠ '\ufeff'

lemma AtToken.atText {t : List Char} (h : AtToken t) : AtText t := fun d hd =>
  ⟨(h d hd).1, (h d hd).2.1⟩

/-- A line that is a plain scalar by its first character. -/
structure PlainToken (s : List Char) : Prop extends PlainLine s where
  begins : ∃ d ∈ s.head?, isBlank d = false ∧ Scanner.isIndicator d = false ∧ d ≠ '\ufeff'

instance (s : List Char) : Decidable (PlainToken s) :=
  decidable_of_iff
    (PlainLine s ∧
      s.head?.any (fun d => !isBlank d && !Scanner.isIndicator d && d != '\ufeff') = true)
    ⟨fun ⟨line, begins⟩ => ⟨line, by simpa [Option.any_eq_true, and_assoc] using begins⟩,
      fun ⟨line, begins⟩ => ⟨line, by simpa [Option.any_eq_true, and_assoc] using begins⟩⟩

lemma PlainToken.exists_cons {s : List Char} (h : PlainToken s) :
    ∃ d t, s = d :: t ∧ isBlank d = false ∧ isBreak d = false ∧ Scanner.isIndicator d = false ∧
      AtToken s := by
  obtain ⟨hline, d, hd, hblank, hindicator, hbom⟩ := h
  cases s with
  | nil => cases hd
  | cons e t =>
    cases hd
    have hbreak := hline.unbroken d List.mem_cons_self
    have hhash : d ≠ '#' := by
      rintro rfl
      cases hindicator
    refine ⟨d, t, rfl, hblank, hbreak, hindicator, ?_⟩
    rintro _ ⟨⟩
    exact ⟨hblank, hbreak, hhash, hbom⟩

namespace Scanner

/-- The tokens up to `s'` are those of `s` and of the text between. -/
def Leads (s s' : Scanner) : Prop :=
  ∃ n, n + s'.cursor.rest.length ≤ s.cursor.rest.length ∧ ∀ fuel, run (fuel + n) s = run fuel s'

lemma Leads.refl (s : Scanner) : Leads s s := ⟨0, by simp, fun _ => rfl⟩

lemma Leads.trans {a b c : Scanner} (h : Leads a b) (h' : Leads b c) : Leads a c := by
  obtain ⟨m, hm, hrun⟩ := h
  obtain ⟨n, hn, hrun'⟩ := h'
  refine ⟨n + m, by omega, fun fuel => ?_⟩
  rw [← Nat.add_assoc, hrun, hrun']

variable {s s' : Scanner} {c : Cursor} {tokens : List Token} {indents : List Nat}

section Next

lemma toNext_stay {fuel : Nat} (h : AtToken s.cursor.rest) : toNext fuel s = s := by
  cases fuel with
  | zero => rfl
  | succ fuel =>
    obtain ⟨⟨_ | ⟨d, t⟩, index, line, column⟩, tokens, indents, keys, allowed⟩ := s
    · simp [toNext, Cursor.skipWhile, Cursor.skipMany, Cursor.skipComment, moveTo]
    · obtain ⟨hblank, hbreak, hhash, hmark⟩ := h d rfl
      simp only [isBlank, Bool.or_eq_false_iff, beq_eq_false_iff_ne] at hblank
      simp [toNext, Cursor.skipWhile, Cursor.skipMany, Cursor.skipComment, moveTo, hblank, hbreak,
        hhash, hmark, atLineEnd]

lemma takeWhile_spaces {p : Char → Bool} {n : Nat} {t : List Char} (hspace : p ' ' = true)
    (ht : ∀ d ∈ t.head?, p d = false) :
    (List.replicate n ' ' ++ t).takeWhile p = List.replicate n ' ' := by
  induction n with
  | zero =>
    cases t with
    | nil => rfl
    | cons d t => simp [ht d rfl]
  | succ n ih => simp [List.replicate_succ, hspace, ih]

lemma toNext_spaces {fuel n : Nat} {t : List Char} (ht : AtToken t)
    (hrest : s.cursor.rest = List.replicate n ' ' ++ t) :
    toNext (fuel + 1) s = s.moveTo (s.cursor.skipMany n) := by
  cases n with
  | zero => exact toNext_stay (by simpa [hrest] using ht)
  | succ n =>
    have htake : (s.cursor.rest.takeWhile fun d =>
        d == ' ' || ((s.inFlow || !s.keyAllowed) && d == '\t')) = List.replicate (n + 1) ' ' := by
      rw [hrest]
      refine takeWhile_spaces rfl fun d hd => ?_
      have hblank := (ht d hd).1
      simp only [isBlank, Bool.or_eq_false_iff] at hblank
      simp [hblank]
    have hafter : (s.cursor.skipMany (n + 1)).rest = t := by simp [Cursor.skipMany_eq, hrest]
    have hbom : s.cursor.rest.head? ≠ some '\ufeff' := by
      rw [hrest, List.replicate_succ]
      simp
    have hcomment : (s.cursor.skipMany (n + 1)).skipComment = s.cursor.skipMany (n + 1) := by
      rw [Cursor.skipComment, hafter, if_neg fun h : t.head? = some '#' => (ht '#' h).2.2.1 rfl]
    rw [toNext]
    simp only [hbom, and_false, if_false, Cursor.skipWhile, htake, List.length_replicate, hcomment,
      hafter]
    rw [if_neg]
    rintro ⟨hne, hend⟩
    obtain ⟨d, t, rfl⟩ := List.exists_cons_of_ne_nil hne
    simp [atLineEnd, (ht d rfl).2.1] at hend

lemma toNext_line {fuel : Nat} {d : Char} {t : List Char} (hrest : s.cursor.rest = d :: t)
    (hd : isBreak d = true) :
    toNext (fuel + 1) s =
      toNext fuel
        { s with cursor := s.cursor.skipLine, keyAllowed := s.keyAllowed || !s.inFlow } := by
  have hne : ∀ e, isBreak e = false → d ≠ e := by
    rintro e he rfl
    rw [hd] at he
    cases he
  rw [toNext]
  simp [hrest, Cursor.skipWhile, Cursor.skipMany, Cursor.skipComment, atLineEnd, hd,
    hne ' ' (by decide), hne '\t' (by decide), hne '#' (by decide), hne '\ufeff' (by decide)]

lemma toNext_comment {fuel : Nat} {comment t : List Char}
    (hcomment : ∀ d ∈ comment, isBreak d = false)
    (hrest : s.cursor.rest = '#' :: (comment ++ '\n' :: t)) (hallowed : s.keyAllowed = true) :
    ∃ c : Cursor, c.rest = t ∧ c.column = 0 ∧ toNext (fuel + 1) s = toNext fuel (s.moveTo c) := by
  have htake :
      ('#' :: (comment ++ '\n' :: t)).takeWhile (fun d => !isBreak d) = '#' :: comment := by
    rw [← List.cons_append, List.takeWhile_append_of_pos]
    · simp [isBreak]
    · exact List.forall_mem_cons.mpr ⟨by decide, fun d hd => by simp [hcomment d hd]⟩
  have hskip : ∀ p : Char → Bool, p '#' = false →
      (s.cursor.skipWhile p).skipComment = s.cursor.skipMany (comment.length + 1) := by
    intro p hp
    have hstay : s.cursor.skipWhile p = s.cursor := by
      simp [Cursor.skipWhile, hrest, hp, Cursor.skipMany]
    rw [hstay, Cursor.skipComment, if_pos (by simp [hrest]), Cursor.skipWhile, hrest, htake]
    rfl
  have hafter : (s.cursor.skipMany (comment.length + 1)).rest = '\n' :: t := by
    simp [Cursor.skipMany_eq, hrest]
  have hbom : s.cursor.rest.head? ≠ some '\ufeff' := by simp [hrest]
  refine ⟨⟨t, s.cursor.index + (comment.length + 1) + 1, s.cursor.line + 1, 0⟩, rfl, rfl, ?_⟩
  rw [toNext]
  simp only [hbom, and_false, if_false]
  rw [hskip _ (by simp), if_pos (by simp [hafter, atLineEnd, isBreak]),
    Cursor.skipLine_newline hafter, hallowed, Bool.true_or, moveTo, hallowed,
    Cursor.skipMany_eq]

/-- The text of comments, each on a line of its own. -/
def commentLines (comments : List (List Char)) : List Char :=
  comments.flatMap fun comment => '#' :: (comment ++ ['\n'])

lemma length_commentLines (comments : List (List Char)) :
    comments.length ≤ (commentLines comments).length := by
  induction comments with
  | nil => simp
  | cons comment comments ih =>
    have hcons : commentLines (comment :: comments) =
        '#' :: (comment ++ '\n' :: commentLines comments) := by simp [commentLines]
    rw [hcons]
    simp
    omega

lemma toNext_comments {fuel : Nat} {comments : List (List Char)} {t : List Char}
    (hcomments : ∀ comment ∈ comments, ∀ d ∈ comment, isBreak d = false) (ht : AtToken t)
    (hrest : s.cursor.rest = commentLines comments ++ t) (hcolumn : s.cursor.column = 0)
    (hallowed : s.keyAllowed = true) (hfuel : comments.length ≤ fuel) :
    ∃ c : Cursor, c.rest = t ∧ c.column = 0 ∧ toNext fuel s = s.moveTo c := by
  induction comments generalizing s fuel with
  | nil => exact ⟨s.cursor, hrest, hcolumn, toNext_stay (by rwa [hrest])⟩
  | cons comment comments ih =>
    cases fuel with
    | zero => simp at hfuel
    | succ fuel =>
      obtain ⟨hcomment, hcomments⟩ := List.forall_mem_cons.mp hcomments
      have hrest' : s.cursor.rest = '#' :: (comment ++ '\n' :: (commentLines comments ++ t)) := by
        simpa [commentLines] using hrest
      obtain ⟨line, hline, hstart, hcomment⟩ := toNext_comment hcomment hrest' hallowed
      have hmoved : (s.moveTo line).cursor.rest = commentLines comments ++ t := hline
      obtain ⟨c, hc, hzero, hnext⟩ :=
        ih hcomments hmoved hstart hallowed (Nat.le_of_succ_le_succ hfuel)
      exact ⟨c, hc, hzero, by rw [hcomment, hnext]; rfl⟩

end Next

lemma leads_of_toNext (h : toNext (s.cursor.rest.length + 1) s = s') (ht : AtToken s'.cursor.rest)
    (hle : s'.cursor.rest.length ≤ s.cursor.rest.length) : Leads s s' := by
  refine ⟨0, by omega, fun fuel => ?_⟩
  cases fuel with
  | zero => rfl
  | succ fuel => rw [Nat.add_zero, run, run, h, toNext_stay ht]

lemma leads_of_token {d : Char} {behind : List Char} (ht : AtToken s.cursor.rest)
    (hrest : s.cursor.rest = d :: behind) (hstale : s.dropStale = some s)
    (htoken : s.unroll.token d behind = some s')
    (hless : s'.cursor.rest.length < s.cursor.rest.length) : Leads s s' := by
  refine ⟨1, by omega, fun fuel => ?_⟩
  rw [run, toNext_stay ht, hstale]
  simp only [Option.bind_eq_bind, Option.bind_some, hrest, htoken]

section Token

variable {d : Char} {behind : List Char}

lemma token_plain (hblank : isBlank d = false) (hbreak : isBreak d = false)
    (hd : isIndicator d = false) (hmark : s.cursor.atDocumentMarker = false) :
    s.token d behind = s.plain := by
  have hne : ∀ e, isIndicator e = true → d ≠ e := by
    rintro e he rfl
    rw [hd] at he
    cases he
  simp [token, hmark, hblank, hbreak, hd, hne '%' rfl, hne '[' rfl, hne '\x7b' rfl, hne ']' rfl,
    hne '\x7d' rfl, hne ',' rfl, hne '-' rfl, hne '?' rfl, hne ':' rfl, hne '*' rfl, hne '&' rfl,
    hne '!' rfl, hne '|' rfl, hne '>' rfl, hne '\x27' rfl, hne '\x22' rfl]

lemma token_colon (halone : atWordEnd behind = true) (hmark : s.cursor.atDocumentMarker = false) :
    s.token ':' behind = s.value := by
  simp [token, hmark, halone]

end Token

section Unroll

variable {column : Nat}

lemma unrollTo_stay (h : ∀ i ∈ indents.head?, i ≤ column) :
    unrollTo column indents tokens = (indents, tokens) := by
  cases indents with
  | nil => rfl
  | cons i indents => rw [unrollTo, if_neg (Nat.not_lt.mpr (h i rfl))]

lemma head_unrollTo : ∀ i ∈ (unrollTo column indents tokens).1.head?, i ≤ column := by
  induction indents generalizing tokens with
  | nil => simp [unrollTo]
  | cons i indents ih =>
    rw [unrollTo]
    split
    · exact ih
    · next h =>
      rintro _ ⟨⟩
      exact Nat.not_lt.mp h

/-- The mappings open, and the tokens, where a key begins. -/
def enter (column : Nat) (indents : List Nat) (tokens : List Token) : List Nat × List Token :=
  if (unrollTo column indents tokens).1.head? = some column then unrollTo column indents tokens
  else
    (column :: (unrollTo column indents tokens).1,
      .blockMappingStart :: (unrollTo column indents tokens).2)

end Unroll

lemma least_le_iff {column : Nat} {s : Scanner} (h : ∀ i ∈ s.indents.head?, i ≤ column) :
    s.least ≤ column ↔ s.indents.head? ≠ some column := by
  unfold least
  cases hi : s.indents with
  | nil => simp
  | cons i indents =>
    have hle : i ≤ column := h i (by rw [hi]; rfl)
    simp
    omega

lemma least_le {column : Nat} {s : Scanner} (h : ∀ i ∈ s.indents.head?, i ≤ column) :
    s.least ≤ column + 1 := by
  unfold least
  cases hi : s.indents with
  | nil => simp
  | cons i indents => exact Nat.succ_le_succ (h i (by rw [hi]; rfl))

lemma insertIdx_append (new old : List Token) (t : Token) :
    (new ++ old).insertIdx new.length t = new ++ t :: old := by
  induction new with
  | nil => rfl
  | cons a new ih => simp [ih]

lemma emitAt_append {new old : List Token} (t : Token) (h : s.tokens = new ++ old) :
    s.emitAt old.length t = { s with tokens := new ++ t :: old } := by
  rw [emitAt, h, List.length_append, Nat.add_sub_cancel, insertIdx_append]

lemma roll_append {column : Nat} {new old : List Token} (t : Token) (h : s.tokens = new ++ old)
    (hflow : s.inFlow = false) :
    s.roll column old.length t =
      if s.least ≤ column then
        { s with tokens := new ++ t :: old, indents := column :: s.indents }
      else s := by
  simp [roll, hflow, emitAt_append t h]

/-- A key in a block is put before its text, and the mapping that begins with it before the key. -/
lemma value_key {key : KeyStart} {new old : List Token} (hkeys : s.keys = [some key])
    (htokens : s.tokens = new ++ old) (hnumber : key.number = old.length) :
    s.value = some { s with
      cursor := s.cursor.skip,
      tokens := .value :: (new ++ .key ::
        if s.least ≤ key.column then .blockMappingStart :: old else old),
      indents := if s.least ≤ key.column then key.column :: s.indents else s.indents,
      keys := [none],
      keyAllowed := false } := by
  have hkey :
      { s with tokens := new ++ Token.key :: old }.tokens = (new ++ [Token.key]) ++ old := by
    simp
  have hflow : inFlow { s with tokens := new ++ Token.key :: old } = false := by
    simp [inFlow, hkeys]
  have hleast : least { s with tokens := new ++ Token.key :: old } = s.least := rfl
  simp only [value, hkeys, hnumber]
  rw [emitAt_append .key htokens, roll_append .blockMappingStart hkey hflow, hleast]
  by_cases h : s.least ≤ key.column <;> simp [h, emit]

section Key

variable {k r v t : List Char} {n : Nat} {comments : List (List Char)}

def behindKey (c : Cursor) (indents : List Nat) (tokens : List Token) (k : List Char) : Scanner :=
  ⟨c.skipMany k.length,
    .scalar (String.ofList k) .plain :: (unrollTo c.column indents tokens).2,
    (unrollTo c.column indents tokens).1,
    [some ⟨(unrollTo c.column indents tokens).1.head? == some c.column,
      (unrollTo c.column indents tokens).2.length, c.index, c.line, c.column⟩], false⟩

lemma leads_keyText (hk : PlainToken k) (hr : atWordEnd r = true)
    (hrest : c.rest = k ++ ':' :: r) (hmark : c.atDocumentMarker = false) :
    Leads ⟨c, tokens, indents, [none], true⟩ (behindKey c indents tokens k) := by
  obtain ⟨d, t, rfl, hblank, hbreak, hindicator, hat⟩ := hk.exists_cons
  have hhead : AtToken c.rest := by
    rw [hrest]
    exact hat
  have hscalar : plainScalar false (least ⟨c, (unrollTo c.column indents tokens).2,
      (unrollTo c.column indents tokens).1, [none], true⟩) c =
      some (String.ofList (d :: t), false, c.skipMany (d :: t).length) := by
    have hcolon : (c.skipMany (d :: t).length).rest = ':' :: r := by
      simp [Cursor.skipMany_eq, hrest]
    exact plainScalar_line hk.toPlainLine (by simp) (fun h => (hat '#' h).2.2.1 rfl) hrest
      (by simp [word, hr]) hmark (least_le head_unrollTo) (ends_colon hcolon)
  refine leads_of_token hhead hrest rfl ?_ ?_
  · rw [token_plain hblank hbreak hindicator hmark, plain, saveKey]
    simp only [unroll, inFlow, dropKey, List.length_singleton, Nat.lt_irrefl, decide_false,
      Bool.false_eq_true, if_false, if_true, Bool.not_false, Bool.true_and, Option.bind_eq_bind,
      Option.bind_some, Option.pure_def, List.tail_cons]
    exact Option.bind_eq_some_iff.mpr ⟨_, hscalar, rfl⟩
  · rw [behindKey, Cursor.skipMany_eq, hrest, List.drop_left]
    simp only [List.length_append, List.length_cons]
    omega

lemma leads_key (hk : PlainToken k) (hlength : k.length ≤ 1024) (hr : atWordEnd r = true)
    (hrest : c.rest = k ++ ':' :: r) (hmark : c.atDocumentMarker = false) :
    Leads ⟨c, tokens, indents, [none], true⟩
      ⟨c.skipMany (k.length + 1),
        .value :: .scalar (String.ofList k) .plain :: .key :: (enter c.column indents tokens).2,
        (enter c.column indents tokens).1, [none], false⟩ := by
  refine (leads_keyText hk hr hrest hmark).trans ?_
  have hpos : 0 < k.length := by
    obtain ⟨d, t, rfl, -⟩ := hk.exists_cons
    simp
  have hcolon : (behindKey c indents tokens k).cursor.rest = ':' :: r := by
    simp [behindKey, Cursor.skipMany_eq, hrest]
  have hhead : AtToken (behindKey c indents tokens k).cursor.rest := by
    rw [hcolon]
    rintro _ ⟨⟩
    decide
  have hfresh : (behindKey c indents tokens k).dropStale = some (behindKey c indents tokens k) := by
    simp [behindKey, dropStale, Cursor.skipMany_eq, Nat.not_lt.mpr hlength]
  have hmark' : (behindKey c indents tokens k).cursor.atDocumentMarker = false := by
    have hcolumn : (c.skipMany k.length).column ≠ 0 := by
      simp only [Cursor.skipMany_eq]
      omega
    simp [behindKey, Cursor.atDocumentMarker, hcolumn]
  refine leads_of_token hhead hcolon hfresh ?_ ?_
  · have hstay : (behindKey c indents tokens k).unroll = behindKey c indents tokens k := by
      have hwithin : ∀ i ∈ (unrollTo c.column indents tokens).1.head?,
          i ≤ (c.skipMany k.length).column := fun i hi =>
        (head_unrollTo i hi).trans (by simp [Cursor.skipMany_eq])
      simp [behindKey, unroll, inFlow, unrollTo_stay hwithin]
    have htokens : (behindKey c indents tokens k).tokens =
        [.scalar (String.ofList k) .plain] ++ (unrollTo c.column indents tokens).2 := rfl
    rw [hstay, token_colon hr hmark', value_key rfl htokens rfl]
    have hleast : (behindKey c indents tokens k).least ≤ c.column ↔
        (unrollTo c.column indents tokens).1.head? ≠ some c.column := least_le_iff head_unrollTo
    simp only [hleast, enter]
    by_cases h : (unrollTo c.column indents tokens).1.head? = some c.column
    · simp [h, behindKey, Cursor.skip, Cursor.skipMany_eq, Nat.add_assoc]
    · simp [h, behindKey, Cursor.skip, Cursor.skipMany_eq, Nat.add_assoc]
  · rw [hcolon]
    simp [Cursor.skipMany_eq, hrest]

lemma leads_value (hv : PlainToken v) (ht : AtText t)
    (hrest : c.rest = ' ' :: (v ++ '\n' :: (List.replicate n ' ' ++ t)))
    (hwithin : ∃ i ∈ indents.head?, n ≤ i ∧ i ≤ c.column) :
    ∃ c' : Cursor, c'.rest = t ∧ c'.column = n ∧
      Leads ⟨c, tokens, indents, [none], false⟩
        ⟨c', .scalar (String.ofList v) .plain :: tokens, indents, [none], true⟩ := by
  obtain ⟨d, u, rfl, hblank, hbreak, hindicator, hat⟩ := hv.exists_cons
  obtain ⟨i, hi, hn, hcolumn⟩ := hwithin
  have hhead : AtToken (d :: u ++ '\n' :: (List.replicate n ' ' ++ t)) := hat
  have hskip : c.skip.rest = d :: u ++ '\n' :: (List.replicate n ' ' ++ t) := by
    simp [Cursor.skip, hrest]
  have hmark : c.skip.atDocumentMarker = false := by simp [Cursor.atDocumentMarker, Cursor.skip]
  have hinside : ∀ j ∈ indents.head?, j ≤ c.skip.column := fun j hj => by
    rw [Option.mem_unique hj hi]
    exact Nat.le_succ_of_le hcolumn
  have hbehind : (c.skip.skipMany (d :: u).length).rest =
      '\n' :: (List.replicate n ' ' ++ t) := by
    simp [Cursor.skipMany_eq, hskip]
  have hleast : n < least ⟨c.skip, tokens, indents, [none], false⟩ := by
    rw [least, List.eq_cons_of_mem_head? hi]
    exact Nat.lt_succ_of_le hn
  have hscalar : plainScalar false (least ⟨c.skip, tokens, indents, [none], false⟩) c.skip =
      some (String.ofList (d :: u), true, (c.skip.skipMany (d :: u).length).skipLine.skipMany n) :=
    plainScalar_line hv.toPlainLine (by simp) (fun h => (hat '#' h).2.2.1 rfl) hskip rfl hmark
      (least_le hinside) (ends_line ht hbehind hleast)
  refine ⟨(c.skip.skipMany (d :: u).length).skipLine.skipMany n, ?_, ?_,
    Leads.trans (b := ⟨c.skip, tokens, indents, [none], false⟩) ?_ ?_⟩
  · rw [Cursor.skipLine_newline hbehind, Cursor.skipMany_eq]
    simp
  · rw [Cursor.skipLine_newline hbehind, Cursor.skipMany_eq]
    simp
  · refine leads_of_toNext (toNext_spaces (n := 1) hhead hrest) (by rw [hskip]; exact hhead) ?_
    simp [Cursor.skip]
  · refine leads_of_token (by rw [hskip]; exact hhead) hskip rfl ?_ ?_
    · have hstay : unroll ⟨c.skip, tokens, indents, [none], false⟩ =
          ⟨c.skip, tokens, indents, [none], false⟩ := by
        simp [unroll, inFlow, unrollTo_stay hinside]
      rw [hstay, token_plain hblank hbreak hindicator hmark, plain]
      exact Option.bind_eq_some_iff.mpr ⟨_, rfl, Option.bind_eq_some_iff.mpr ⟨_, hscalar, rfl⟩⟩
    · rw [hskip, Cursor.skipLine_newline hbehind]
      simp [Cursor.skipMany_eq]
      omega

lemma leads_line (ht : AtToken t) (hrest : c.rest = '\n' :: (List.replicate n ' ' ++ t)) :
    ∃ c' : Cursor, c'.rest = t ∧ c'.column = n ∧
      Leads ⟨c, tokens, indents, [none], false⟩ ⟨c', tokens, indents, [none], true⟩ := by
  have hline := Cursor.skipLine_newline hrest
  refine ⟨c.skipLine.skipMany n, by simp [hline, Cursor.skipMany_eq],
    by simp [hline, Cursor.skipMany_eq], leads_of_toNext ?_ ?_ ?_⟩
  · have hlength : c.rest.length = (List.replicate n ' ' ++ t).length + 1 := by simp [hrest]
    rw [toNext_line hrest rfl, hlength, toNext_spaces ht (by rw [hline])]
    rfl
  · simpa [hline, Cursor.skipMany_eq] using ht
  · simp [hline, Cursor.skipMany_eq, hrest]
    omega

lemma leads_comments (hcomments : ∀ comment ∈ comments, ∀ d ∈ comment, isBreak d = false)
    (ht : AtToken t) (hrest : c.rest = commentLines comments ++ t) (hcolumn : c.column = 0) :
    ∃ c' : Cursor, c'.rest = t ∧ c'.column = 0 ∧
      Leads ⟨c, tokens, indents, [none], true⟩ ⟨c', tokens, indents, [none], true⟩ := by
  have hfuel : comments.length ≤ c.rest.length + 1 := by
    rw [hrest, List.length_append]
    have := length_commentLines comments
    omega
  obtain ⟨c', hc', hzero, hnext⟩ := toNext_comments (s := ⟨c, tokens, indents, [none], true⟩)
    hcomments ht hrest hcolumn rfl hfuel
  refine ⟨c', hc', hzero, leads_of_toNext hnext ?_ ?_⟩
  · simpa [moveTo, hc'] using ht
  · simp [hc', hrest]

lemma head_enter (column : Nat) (indents : List Nat) (tokens : List Token) :
    column ∈ (enter column indents tokens).1.head? := by
  unfold enter
  split
  · next h => exact h
  · rfl

lemma atDocumentMarker_cons {d : Char} {s : List Char} (hdash : d ≠ '-') (hdot : d ≠ '.')
    (hrest : c.rest = d :: s) : c.atDocumentMarker = false := by
  have hmark : atMarker (d :: s) = false := by
    unfold atMarker
    split
    · next h => exact (hdash (List.cons.inj h).1).elim
    · next h => exact (hdot (List.cons.inj h).1).elim
    · rfl
  rw [Cursor.atDocumentMarker, hrest, hmark, Bool.and_false]

lemma atDocumentMarker_key (hk : PlainToken k) (hdot : k.head? ≠ some '.')
    (hrest : c.rest = k ++ r) : c.atDocumentMarker = false := by
  obtain ⟨d, u, rfl, -, -, hindicator, -⟩ := hk.exists_cons
  have hdash : d ≠ '-' := by
    rintro rfl
    cases hindicator
  exact atDocumentMarker_cons hdash (by simpa using hdot) hrest

end Key

/-- At its end, a text closes what is open. -/
lemma run_end {fuel : Nat} (hrest : s.cursor.rest = []) (hkeys : s.keys = [none]) :
    run (fuel + 1) s = some { s with
      tokens := .streamEnd :: (s.indents.map (fun _ => .blockEnd) ++ s.tokens),
      indents := [],
      keyAllowed := false } := by
  have ht : AtToken s.cursor.rest := by simp [AtToken, hrest]
  have hstale : s.dropStale = some s := by
    obtain ⟨c, tokens, indents, keys, allowed⟩ := s
    cases hkeys
    rfl
  rw [run, toNext_stay ht, hstale]
  simp [hrest, boundary, unrollAll, inFlow, hkeys, dropKey, allowKey, moveTo, emit]

end Scanner

lemma tokens?_of_leads {text : String} {s : Scanner}
    (hprintable : ∀ c ∈ text.toList, isPrintable c = true)
    (h : Scanner.Leads (.start text.toList) s) :
    ∃ fuel, s.cursor.rest.length < fuel ∧
      tokens? text = (s.run fuel).map fun scanner => scanner.tokens.reverse := by
  obtain ⟨n, hn, hrun⟩ := h
  have hlength : (Scanner.start text.toList).cursor.rest.length = text.toList.length := rfl
  obtain ⟨fuel, hfuel⟩ : ∃ fuel, text.toList.length + 1 = fuel + n :=
    ⟨text.toList.length + 1 - n, by omega⟩
  refine ⟨fuel, by omega, ?_⟩
  rw [tokens?, if_pos (List.all_eq_true.mpr hprintable), hfuel, hrun]

end Rollout.Yaml
