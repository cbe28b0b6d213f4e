import Rollout.Proofs.Store.Changes

/-! How transactions succeed, step by step, and what of the tables they keep. -/

namespace Rollout

namespace Tx

variable {ε ε' α β : Type} {t t' : Tables}

lemma bind_apply (tx : Tx ε α) (f : α → Tx ε β) (t : Tables) :
    (tx >>= f) t = match tx t with
      | (.ok a, u) => f a u
      | (.error e, u) => (.error e, u) := by
  change (ExceptT.bind tx f : Tx ε β) t = _
  simp only [ExceptT.bind, ExceptT.mk, bind, StateT.bind]
  rcases tx t with ⟨a | e, u⟩ <;> rfl

lemma bind_ok {tx : Tx ε α} {f : α → Tx ε β} {b : β} :
    (tx >>= f) t = (.ok b, t') ↔ ∃ a u, tx t = (.ok a, u) ∧ f a u = (.ok b, t') := by
  rw [bind_apply]
  rcases h : tx t with ⟨e | a, u⟩
  · constructor
    · intro he
      cases he
    · rintro ⟨a, u', he, _⟩
      cases he
  · constructor
    · intro hf
      exact ⟨a, u, rfl, hf⟩
    · rintro ⟨a', u', he, hf⟩
      cases he
      exact hf

lemma bind_of_ok {tx : Tx ε α} {f : α → Tx ε β} {a : α} {u : Tables} (h : tx t = (.ok a, u)) :
    (tx >>= f) t = f a u := by
  rw [bind_apply, h]

lemma bind_error {tx : Tx ε α} {f : α → Tx ε β} {e : ε} (h : (tx t).1 = .error e) :
    ((tx >>= f) t).1 = .error e := by
  rw [bind_apply]
  rcases ht : tx t with ⟨r, u⟩
  rw [ht] at h
  cases h
  rfl

lemma pure_ok {a b : α} : (pure a : Tx ε α) t = (.ok b, t') ↔ a = b ∧ t = t' := by
  constructor
  · intro h
    cases h
    exact ⟨rfl, rfl⟩
  · rintro ⟨rfl, rfl⟩
    rfl

lemma ask_ok {f : Tables → α} {a : α} : (ask f : Tx ε α) t = (.ok a, t') ↔ f t = a ∧ t = t' := by
  constructor
  · intro h
    cases h
    exact ⟨rfl, rfl⟩
  · rintro ⟨rfl, rfl⟩
    rfl

lemma change_ok {wrap : StoreError → ε} {f : Tables → Except StoreError Tables} {a : Unit} :
    change wrap f t = (.ok a, t') ↔ f t = .ok t' := by
  unfold change
  cases h : f t with
  | ok u =>
    constructor
    · intro he
      cases he
      rfl
    · intro he
      cases he
      rfl
  | error e =>
    constructor <;> intro he <;> cases he

lemma app_ok {wrap : StoreError → ε} {guid : AppGuid} {a : App} :
    app wrap guid t = (.ok a, t') ↔ t.app? guid = some a ∧ t = t' := by
  unfold app
  cases t.app? guid with
  | some b =>
    constructor
    · rintro ⟨⟩
      exact ⟨rfl, rfl⟩
    · rintro ⟨⟨⟩, rfl⟩
      rfl
  | none =>
    constructor
    · rintro ⟨⟩
    · rintro ⟨⟨⟩, _⟩

lemma mapError_ok {wrap : ε → ε'} {tx : Tx ε α} {a : α} :
    tx.mapError wrap t = (.ok a, t') ↔ tx t = (.ok a, t') := by
  unfold mapError
  rcases h : tx t with ⟨e | b, u⟩
  · constructor <;> intro he <;> cases he
  · constructor
    · intro he
      cases he
      rfl
    · intro he
      cases he
      rfl

/-- What holds of the tables before the steps holds after them, whether or not they succeed. -/
def Keeps (I : Tables → Prop) (tx : Tx ε α) : Prop := ∀ t, I t → I (tx t).2

variable {I : Tables → Prop}

lemma keeps_pure (a : α) : (pure a : Tx ε α).Keeps I := fun _ h => h

lemma keeps_ask (f : Tables → α) : (ask f : Tx ε α).Keeps I := fun _ h => h

lemma keeps_app (wrap : StoreError → ε) (guid : AppGuid) : (app wrap guid).Keeps I := by
  intro t h
  unfold app
  cases t.app? guid <;> exact h

lemma keeps_change {wrap : StoreError → ε} {f : Tables → Except StoreError Tables}
    (hf : ∀ t u, I t → f t = .ok u → I u) : (change wrap f).Keeps I := by
  intro t h
  unfold change
  cases he : f t with
  | ok u => exact hf t u h he
  | error e => exact h

lemma keeps_bind {tx : Tx ε α} {f : α → Tx ε β} (ht : tx.Keeps I) (hf : ∀ a, (f a).Keeps I) :
    (tx >>= f).Keeps I := by
  intro t h
  have hu := ht t h
  rw [bind_apply]
  rcases he : tx t with ⟨e | a, u⟩
  · rwa [he] at hu
  · rw [he] at hu
    exact hf a u hu

lemma keeps_mapError {wrap : ε → ε'} {tx : Tx ε α} (ht : tx.Keeps I) :
    (tx.mapError wrap).Keeps I := by
  intro t h
  have hu := ht t h
  unfold mapError
  rcases he : tx t with ⟨e | a, u⟩ <;> rwa [he] at hu

end Tx

namespace Store

variable {ε α : Type} {s : Store} {wrap : StoreError → ε} {tx : Tx ε α}

lemma transaction_ok {a : α} {s' : Store} :
    s.transaction wrap tx = (.ok a, s') ↔
      s.available = true ∧ ∃ t, tx s.tables = (.ok a, t) ∧ s' = { s with tables := t } := by
  unfold transaction
  cases s.available with
  | false => simp
  | true =>
    rcases tx s.tables with ⟨e | b, t⟩
    · constructor
      · intro h
        cases h
      · rintro ⟨_, u, h, _⟩
        cases h
    · constructor
      · intro h
        cases h
        exact ⟨rfl, t, rfl, rfl⟩
      · rintro ⟨_, u, h, rfl⟩
        cases h
        rfl

lemma transaction_error {e : ε} (h : (s.transaction wrap tx).1 = .error e) :
    (s.transaction wrap tx).2 = s := by
  unfold transaction at h ⊢
  split
  · next ha =>
    rw [if_pos ha] at h
    rcases ht : tx s.tables with ⟨e | a, t⟩
    · rfl
    · rw [ht] at h
      cases h
  · rfl

lemma transaction_available : (s.transaction wrap tx).2.available = s.available := by
  unfold transaction
  split
  · rcases tx s.tables with ⟨e | a, t⟩ <;> rfl
  · rfl

lemma transaction_keeps {I : Tables → Prop} (hs : I s.tables)
    (ht : ∀ a t, tx s.tables = (.ok a, t) → I t) : I (s.transaction wrap tx).2.tables := by
  rcases h : s.transaction wrap tx with ⟨e | a, s'⟩
  · have hn : s' = s := by
      have he := transaction_error (e := e) (congrArg Prod.fst h)
      rwa [h] at he
    rwa [hn]
  · obtain ⟨_, t, htx, rfl⟩ := transaction_ok.mp h
    exact ht a t htx

end Store

end Rollout
