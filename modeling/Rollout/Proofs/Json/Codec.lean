import Mathlib.Data.List.Nodup
import Rollout.Json.Record

/-! How readers of records see what writers of records wrote. -/

namespace Rollout.Json

variable {α : Type} {names : List String} {members : List (String × Json)}

/-- A record that is written with some of its fields, in their order, has just those fields. -/
lemma fields?_object (hnames : names.Nodup) (h : (members.map (·.1)).Sublist names) :
    fields? names (.object members) = some members := by
  have hknown : members.filter (fun m => names.contains m.1) = members := by
    apply List.filter_eq_self.mpr
    intro m hm
    exact List.contains_iff_mem.mpr (h.subset (List.mem_map_of_mem hm))
  simp only [fields?, hknown, hnames.sublist h, if_true]

/-- A value, or null in its absence. -/
def nullable (read : Json → Option α) : Json → Option (Option α)
  | .null => some none
  | v => (read v).map some

lemma nullable_of_read {read : Json → Option α} {v : Json} {a : α} (hnull : v ≠ .null)
    (h : read v = some a) : nullable read v = some (some a) := by
  cases v with
  | null => exact (hnull rfl).elim
  | _ =>
    rw [nullable, h, Option.map_some]
    exact hnull

@[simp] lemma nullable_null {read : Json → Option α} : nullable read .null = some none := rfl

@[simp] lemma nullable_ofText? (s : Option String) : nullable text? (ofText? s) = some s := by
  cases s <;> rfl

namespace Fields

variable {fields : Fields} {name key : String} {v : Json} {read : Json → Option α}

@[simp] lemma need_cons_self : need ((name, v) :: fields) name read = read v := by
  simp [need]

@[simp] lemma need_cons_ne (h : name ≠ key) :
    need ((key, v) :: fields) name read = need fields name read := by
  simp [need, List.lookup_cons, beq_false_of_ne h]

@[simp] lemma optional_nil : optional [] name read = some none := rfl

@[simp] lemma optional_cons_self : optional ((name, v) :: fields) name read = nullable read v := by
  cases v <;> simp [optional, nullable]

@[simp] lemma optional_cons_ne (h : name ≠ key) :
    optional ((key, v) :: fields) name read = optional fields name read := by
  simp [optional, List.lookup_cons, beq_false_of_ne h]

@[simp] lemma withDefault_cons_self {a : α} :
    withDefault ((name, v) :: fields) name a read = read v := by
  simp [withDefault]

end Fields

/-- Lists read back whose items do. -/
lemma list?_map {read : Json → Option α} {write : α → Json} {items : List α}
    (h : ∀ a ∈ items, read (write a) = some a) :
    list? read (.array (items.map write)) = some items := by
  rw [list?]
  induction items with
  | nil => rfl
  | cons a items ih =>
    rw [List.forall_mem_cons] at h
    simp only [List.map_cons, List.mapM_cons, h.1, ih h.2, Option.pure_def, Option.bind_eq_bind,
      Option.bind_some]

@[simp] lemma uint16?_nat (n : UInt16) : uint16? (nat n.toNat) = some n := by
  simp [uint16?, natBelow?, nat, n.toNat_lt_size]

@[simp] lemma uint32?_nat (n : UInt32) : uint32? (nat n.toNat) = some n := by
  simp [uint32?, natBelow?, nat, n.toNat_lt_size]

@[simp] lemma uint64?_nat (n : UInt64) : uint64? (nat n.toNat) = some n := by
  simp [uint64?, natBelow?, nat, n.toNat_lt_size]

@[simp] lemma nullable_uint32 (n : UInt32) : nullable uint32? (nat n.toNat) = some (some n) :=
  nullable_of_read (by simp [nat]) (uint32?_nat n)

lemma some_bind {β : Type} {a : α} {f : α → Option β} : (some a >>= f) = f a := rfl

lemma bind_eq_some {β : Type} {o : Option α} {f : α → Option β} {b : β} :
    (o >>= f) = some b ↔ ∃ a, o = some a ∧ f a = some b := Option.bind_eq_some_iff

@[simp] lemma bool?_bool (b : Bool) : bool? (.bool b) = some b := rfl

@[simp] lemma text?_string (s : String) : text? (.string s) = some s := rfl

section Codec

variable {Legible : α → Prop} {write : α → Json} {read : Json → Option α}

/-- Legible values read back, and only such values are ever read. -/
structure Codec (Legible : α → Prop) (write : α → Json) (read : Json → Option α) : Prop where
  reads_back : ∀ {a}, Legible a → read (write a) = some a
  legible_of_read : ∀ {j a}, read j = some a → Legible a

/--
Legible values read back from their own documents, and what any document at all is read as,
written and read once more, is the same again.
-/
structure RoundTrip (Legible : α → Prop) (write : α → Json) (read : Json → Option α) : Prop where
  reads_back : ∀ {a}, Legible a → read (write a) = some a
  reads_again : ∀ {j a}, read j = some a → read (write a) = some a

lemma Codec.roundTrip (codec : Codec Legible write read) :
    RoundTrip Legible write read where
  reads_back := codec.reads_back
  reads_again h := codec.reads_back (codec.legible_of_read h)

end Codec

end Rollout.Json
