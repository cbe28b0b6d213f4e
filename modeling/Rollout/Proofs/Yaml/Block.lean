import Rollout.Proofs.Yaml.Lines

/-! Texts that are block mappings of plain scalars, line by line, and the tokens of them. -/

namespace Rollout.Yaml

/-- A key with its value behind it or below it, and the comments above. -/
structure Line where
  comments : List String
  column : Nat
  key : String
  value : Option String

namespace Line

def behind (value : Option String) (below : Nat × List Char) : List Char :=
  match value with
  | some v => ' ' :: (v.toList ++ '\n' :: (List.replicate below.1 ' ' ++ below.2))
  | none => '\n' :: (List.replicate below.1 ' ' ++ below.2)

def text (l : Line) : List Char :=
  Scanner.commentLines (l.comments.map String.toList) ++
    (List.replicate l.column ' ' ++ (l.key.toList ++ ':' :: behind l.value (0, [])))

/-- The line in front of another one. Both are texts and the columns at which they begin. -/
def put (l : Line) (below : Nat × List Char) : Nat × List Char :=
  (l.column, Scanner.commentLines (l.comments.map String.toList) ++
    (l.key.toList ++ ':' :: behind l.value below))

/-- The open mappings and the tokens behind the line. -/
def push (open_ : List Nat × List Token) (l : Line) : List Nat × List Token :=
  let entered := Scanner.enter l.column open_.1 open_.2
  let tokens := .value :: .scalar l.key .plain :: .key :: entered.2
  (entered.1, match l.value with
    | some v => .scalar v .plain :: tokens
    | none => tokens)

end Line

structure IsKey (k : String) : Prop extends PlainToken k.toList where
  length_le : k.toList.length ≤ 1024
  undotted : k.toList.head? ≠ some '.'

instance (k : String) : Decidable (IsKey k) :=
  decidable_of_iff (PlainToken k.toList ∧ k.toList.length ≤ 1024 ∧ k.toList.head? ≠ some '.')
    ⟨fun ⟨plain, length_le, undotted⟩ => ⟨plain, length_le, undotted⟩,
      fun ⟨plain, length_le, undotted⟩ => ⟨plain, length_le, undotted⟩⟩

/-- A line whose key and value are plain. Comments stand at the left only. -/
structure Line.WellFormed (l : Line) : Prop where
  key : IsKey l.key
  value : ∀ v ∈ l.value, PlainToken v.toList
  comments : ∀ comment ∈ l.comments, ∀ d ∈ comment.toList, isBreak d = false
  left : l.comments = [] ∨ l.column = 0

instance (l : Line) : Decidable l.WellFormed :=
  decidable_of_iff
    (IsKey l.key ∧ (∀ v ∈ l.value, PlainToken v.toList) ∧
      (∀ comment ∈ l.comments, comment.toList.all (!isBreak ·) = true) ∧
      (l.comments = [] ∨ l.column = 0))
    ⟨fun ⟨key, value, comments, left⟩ => ⟨key, value, by simpa using comments, left⟩,
      fun ⟨key, value, comments, left⟩ => ⟨key, value, by simpa using comments, left⟩⟩

/-- What may stand below a line: nothing right of an entry, and no comment below a mere key. -/
def Line.Above (l : Line) (below : Nat × List Char) : Prop :=
  match l.value with
  | some _ => below.1 ≤ l.column ∧ AtText below.2
  | none => AtToken below.2

def Line.Before (l l' : Line) : Prop :=
  match l.value with
  | some _ => l'.column ≤ l.column
  | none => l'.comments = []

namespace Scanner

variable {c : Cursor} {indents : List Nat} {tokens : List Token} {l l' : Line}
  {below : Nat × List Char}

lemma atToken_put (h : l.WellFormed) (hcomments : l.comments = []) : AtToken (l.put below).2 := by
  obtain ⟨d, t, hd, -, -, -, hat⟩ := h.key.exists_cons
  rw [hd] at hat
  have hput : (l.put below).2 = d :: (t ++ ':' :: Line.behind l.value below) := by
    simp [Line.put, hcomments, commentLines, hd]
  rw [hput]
  exact hat

lemma atText_put (h : l.WellFormed) : AtText (l.put below).2 := by
  cases hcomments : l.comments with
  | nil => exact (atToken_put h hcomments).atText
  | cons comment comments =>
    rintro d hd
    obtain rfl : '#' = d := by simpa [Line.put, hcomments, commentLines] using hd
    decide

lemma above_put (h : l'.WellFormed) (hbefore : l.Before l') : l.Above (l'.put below) := by
  unfold Line.Before at hbefore
  unfold Line.Above
  split
  · next hv =>
    rw [hv] at hbefore
    exact ⟨hbefore, atText_put h⟩
  · next hv =>
    rw [hv] at hbefore
    exact atToken_put h hbefore

lemma text_put (hleft : l.comments = [] ∨ l.column = 0) :
    l.text ++ (List.replicate below.1 ' ' ++ below.2) =
      List.replicate (l.put below).1 ' ' ++ (l.put below).2 := by
  have hbehind : Line.behind l.value (0, []) ++ (List.replicate below.1 ' ' ++ below.2) =
      Line.behind l.value below := by
    cases l.value <;> simp [Line.behind]
  rcases hleft with hnone | hleft
  · simp [Line.text, Line.put, hnone, commentLines, ← hbehind]
  · simp [Line.text, Line.put, hleft, ← hbehind]

lemma texts_put {ls : List Line} (h : ∀ l ∈ ls, l.comments = [] ∨ l.column = 0)
    (below : Nat × List Char) :
    ls.flatMap Line.text ++ (List.replicate below.1 ' ' ++ below.2) =
      List.replicate (ls.foldr Line.put below).1 ' ' ++ (ls.foldr Line.put below).2 := by
  induction ls with
  | nil => rfl
  | cons l ls ih =>
    obtain ⟨hl, h⟩ := List.forall_mem_cons.mp h
    rw [List.flatMap_cons, List.append_assoc, ih h, text_put hl]
    rfl

lemma leads_put (h : l.WellFormed) (habove : l.Above below) (hrest : c.rest = (l.put below).2)
    (hcolumn : c.column = l.column) :
    ∃ c' : Cursor, c'.rest = below.2 ∧ c'.column = below.1 ∧
      Leads ⟨c, tokens, indents, [none], true⟩
        ⟨c', (Line.push (indents, tokens) l).2, (Line.push (indents, tokens) l).1, [none],
          true⟩ := by
  -- Without its comments, the line begins with its key.
  have hkey : (⟨[], l.column, l.key, l.value⟩ : Line).WellFormed :=
    ⟨h.key, h.value, by simp, .inl rfl⟩
  have hat : AtToken (l.key.toList ++ ':' :: Line.behind l.value below) := atToken_put hkey rfl
  obtain ⟨c₁, hrest₁, hcolumn₁, hcomments⟩ : ∃ c₁ : Cursor,
      c₁.rest = l.key.toList ++ ':' :: Line.behind l.value below ∧ c₁.column = l.column ∧
        Leads ⟨c, tokens, indents, [none], true⟩ ⟨c₁, tokens, indents, [none], true⟩ := by
    rcases h.left with hnone | hleft
    · exact ⟨c, by simpa [Line.put, hnone, commentLines] using hrest, hcolumn, .refl _⟩
    · rw [hleft] at hcolumn ⊢
      exact leads_comments (by simpa using h.comments) hat hrest hcolumn
  have hend : atWordEnd (Line.behind l.value below) = true := by
    unfold Line.behind
    split <;> rfl
  have hcolon : Leads ⟨c₁, tokens, indents, [none], true⟩ _ :=
    leads_key h.key.toPlainToken h.key.length_le hend hrest₁
      (atDocumentMarker_key h.key.toPlainToken h.key.undotted hrest₁)
  have hbehind : (c₁.skipMany (l.key.toList.length + 1)).rest = Line.behind l.value below := by
    rw [Cursor.skipMany_eq, hrest₁, ← List.drop_drop, List.drop_left]
    rfl
  rw [String.ofList_toList, hcolumn₁] at hcolon
  unfold Line.Above at habove
  unfold Line.push
  cases hv : l.value with
  | some v =>
    rw [hv] at habove hbehind
    obtain ⟨c', hc', hcolumn', hvalue⟩ := leads_value (h.value v hv) habove.2 hbehind
      ⟨l.column, head_enter l.column indents tokens, habove.1,
        by simp [Cursor.skipMany_eq, hcolumn₁]⟩
    rw [String.ofList_toList] at hvalue
    exact ⟨c', hc', hcolumn', hcomments.trans (hcolon.trans hvalue)⟩
  | none =>
    rw [hv] at habove hbehind
    obtain ⟨c', hc', hcolumn', hline⟩ := leads_line habove hbehind
    exact ⟨c', hc', hcolumn', hcomments.trans (hcolon.trans hline)⟩

lemma leads_lines {ls : List Line} (h : ∀ l ∈ ls, l.WellFormed) (hls : ls.IsChain Line.Before)
    (hlast : ∀ l ∈ ls.getLast?, l.Above below) (hrest : c.rest = (ls.foldr Line.put below).2)
    (hcolumn : c.column = (ls.foldr Line.put below).1) :
    ∃ c' : Cursor, c'.rest = below.2 ∧ c'.column = below.1 ∧
      Leads ⟨c, tokens, indents, [none], true⟩
        ⟨c', (ls.foldl Line.push (indents, tokens)).2, (ls.foldl Line.push (indents, tokens)).1,
          [none], true⟩ := by
  induction ls generalizing c indents tokens with
  | nil => exact ⟨c, hrest, hcolumn, .refl _⟩
  | cons l ls ih =>
    obtain ⟨hl, h⟩ := List.forall_mem_cons.mp h
    obtain ⟨hbefore, hls⟩ := List.isChain_cons.mp hls
    have habove : l.Above (ls.foldr Line.put below) := by
      cases ls with
      | nil => exact hlast l rfl
      | cons l' ls => exact above_put (h l' List.mem_cons_self) (hbefore l' rfl)
    obtain ⟨c₁, hrest₁, hcolumn₁, hline⟩ := leads_put hl habove hrest hcolumn
    have hlast' : ∀ l ∈ ls.getLast?, l.Above below := fun l' hl' =>
      hlast l' (by rw [List.getLast?_cons, Option.mem_def.mp hl']; rfl)
    obtain ⟨c', hc', hcolumn', hlines⟩ := ih h hls hlast' hrest₁ hcolumn₁
    exact ⟨c', hc', hcolumn', hline.trans hlines⟩

lemma tokens?_lines {text : String} {ls : List Line}
    (hprintable : ∀ c ∈ text.toList, isPrintable c = true) (h : ∀ l ∈ ls, l.WellFormed)
    (hls : ls.IsChain Line.Before) (hlast : ∀ l ∈ ls.getLast?, l.value.isSome = true)
    (htext : ls.foldr Line.put (0, []) = (0, text.toList)) :
    tokens? text = some (.streamEnd :: ((ls.foldl Line.push ([], [])).1.map (fun _ => .blockEnd) ++
      (ls.foldl Line.push ([], [])).2)).reverse := by
  have habove : ∀ l ∈ ls.getLast?, l.Above (0, []) := by
    intro l hl
    obtain ⟨v, hv⟩ := Option.isSome_iff_exists.mp (hlast l hl)
    simp [Line.Above, hv, AtText]
  obtain ⟨c, hrest, -, hlines⟩ : ∃ c : Cursor, c.rest = [] ∧ c.column = 0 ∧
      Leads (.start text.toList) ⟨c, (ls.foldl Line.push ([], [])).2,
        (ls.foldl Line.push ([], [])).1, [none], true⟩ :=
    leads_lines h hls habove (congrArg Prod.snd htext).symm (congrArg Prod.fst htext).symm
  obtain ⟨fuel, hfuel, htokens⟩ := tokens?_of_leads hprintable hlines
  obtain ⟨fuel, rfl⟩ := Nat.exists_eq_succ_of_ne_zero (Nat.ne_of_gt (Nat.zero_lt_of_lt hfuel))
  rw [htokens, run_end hrest rfl]
  rfl

end Scanner

end Rollout.Yaml
