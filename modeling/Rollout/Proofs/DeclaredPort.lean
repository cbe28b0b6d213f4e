import Rollout.Proofs.Json.Numeral
import Rollout.Proofs.Ports
import Rollout.Proofs.Sequence

/-! A port in the metadata of an image, as a text or as a number, and all that stands around it. -/

namespace Rollout

/-- What members make of a field: it is not among them, or it is there once and was not before. -/
inductive Takes {ε α : Type} (name : String) (read : Json → Except ε α)
    (members : List (String × Json)) : Option α → Option α → Prop
  | absent {x : Option α} : members.filter (·.1 = name) = [] → Takes name read members x x
  | once {value : Json} {a : α} : members.filter (·.1 = name) = [(name, value)] →
      read value = .ok a → Takes name read members none (some a)

namespace Takes

variable {ε α : Type} {name other : String} {read : Json → Except ε α} {value : Json}
variable {members others before after : List (String × Json)} {x x' : Option α}

lemma congr (h : members.filter (·.1 = name) = others.filter (·.1 = name)) :
    Takes name read members x x' ↔ Takes name read others x x' := by
  constructor
  · rintro (hnone | ⟨honce, hread⟩)
    · exact .absent (h.symm.trans hnone)
    · exact .once (h.symm.trans honce) hread
  · rintro (hnone | ⟨honce, hread⟩)
    · exact .absent (h.trans hnone)
    · exact .once (h.trans honce) hread

lemma nil_iff : Takes name read [] x x' ↔ x' = x := by
  constructor
  · rintro (- | ⟨⟨⟩, -⟩)
    rfl
  · rintro rfl
    exact .absent rfl

lemma skip_iff (h : other ≠ name) : Takes name read (before ++ (other, value) :: after) x x' ↔
    Takes name read (before ++ after) x x' := by
  apply congr
  rw [List.filter_append, List.filter_append, List.filter_cons_of_neg (by simpa using h)]

lemma tail_iff (h : other ≠ name) : Takes name read ((other, value) :: members) x x' ↔
    Takes name read members x x' := congr (List.filter_cons_of_neg (by simpa using h))

lemma cons_iff : Takes name read ((name, value) :: members) x x' ↔
    x = none ∧ ∃ a, read value = .ok a ∧ Takes name read members (some a) x' := by
  have hfilter : ((name, value) :: members).filter (·.1 = name) =
      (name, value) :: members.filter (·.1 = name) := List.filter_cons_of_pos (by simp)
  constructor
  · rintro (hnone | ⟨honce, hread⟩)
    · rw [hfilter] at hnone
      cases hnone
    · rw [hfilter] at honce
      obtain ⟨⟨⟩, hrest⟩ := List.cons.inj honce
      exact ⟨rfl, _, hread, .absent hrest⟩
  · rintro ⟨rfl, a, hread, h⟩
    cases h with
    | absent hrest => exact .once (hfilter.trans (by rw [hrest])) hread

lemma around_iff : Takes name read (before ++ (name, value) :: after) none x' ↔
    ∃ a, read value = .ok a ∧ (∀ m ∈ before ++ after, m.1 ≠ name) ∧ x' = some a := by
  have hfilter : (before ++ (name, value) :: after).filter (·.1 = name) =
      before.filter (·.1 = name) ++ (name, value) :: after.filter (·.1 = name) := by
    rw [List.filter_append, List.filter_cons_of_pos (by simp)]
  have hothers : (∀ m ∈ before ++ after, m.1 ≠ name) ↔
      before.filter (·.1 = name) = [] ∧ after.filter (·.1 = name) = [] := by
    simp only [List.forall_mem_append, List.filter_eq_nil_iff, decide_eq_true_iff, ne_eq]
  rw [hothers]
  constructor
  · rintro (hnone | ⟨honce, hread⟩)
    · rw [hfilter] at hnone
      exact (List.append_ne_nil_of_right_ne_nil _ (List.cons_ne_nil _ _) hnone).elim
    · rw [hfilter] at honce
      rcases List.append_eq_singleton_iff.mp honce with ⟨hbefore, hhere⟩ | ⟨-, ⟨⟩⟩
      obtain ⟨⟨⟩, hafter⟩ := List.cons.inj hhere
      exact ⟨_, hread, ⟨hbefore, hafter⟩, rfl⟩
  · rintro ⟨a, hread, ⟨hbefore, hafter⟩, rfl⟩
    refine .once ?_ hread
    rw [hfilter, hbefore, hafter, List.nil_append]

end Takes

/-- A record of two fields, each given once at most. -/
structure TwoFields (ε α β γ : Type) where
  first : String
  second : String
  distinct : first ≠ second
  readFirst : Json → Except ε α
  readSecond : Json → Except ε β
  build : α → Option β → γ
  finish : Option α → Option β → Except ε γ
  finish_some : ∀ a b, finish (some a) b = .ok (build a b)
  fault : ε

/-- Where a record has its first field: a member among others, or the first item. -/
inductive Slot where
  | member (before after : List (String × Json))
  | item (rest : List Json)

def Slot.fill (name : String) (value : Json) : Slot → Json
  | member before after => .object (before ++ (name, value) :: after)
  | item rest => .array (value :: rest)

namespace TwoFields

variable {ε α β γ : Type}

def readMembers (r : TwoFields ε α β γ) :
    Option α → Option β → List (String × Json) → Except ε γ
  | a, b, [] => r.finish a b
  | a, b, (name, value) :: members =>
    if name = r.first then
      if a.isSome then .error r.fault
      else (r.readFirst value).bind fun a => r.readMembers (some a) b members
    else if name = r.second then
      if b.isSome then .error r.fault
      else (r.readSecond value).bind fun b => r.readMembers a (some b) members
    else r.readMembers a b members

def readItems (r : TwoFields ε α β γ) (value : Json) : List Json → Except ε γ
  | [] => (r.readFirst value).bind fun a => .ok (r.build a none)
  | second :: rest =>
    (r.readFirst value).bind fun a => (r.readSecond second).bind fun b =>
      if rest.isEmpty then .ok (r.build a (some b)) else .error r.fault

def read (r : TwoFields ε α β γ) (value : Json) : Slot → Except ε γ
  | .member before after => r.readMembers none none (before ++ (r.first, value) :: after)
  | .item rest => r.readItems value rest

/-- What a record has beside its first field makes the second one, or leaves it out. -/
inductive Beside (r : TwoFields ε α β γ) : Slot → Option β → Prop
  | member {before after : List (String × Json)} {b : Option β} :
      (∀ m ∈ before ++ after, m.1 ≠ r.first) →
      Takes r.second r.readSecond (before ++ after) none b → r.Beside (.member before after) b
  | alone : r.Beside (.item []) none
  | item {value : Json} {b : β} : r.readSecond value = .ok b → r.Beside (.item [value]) (some b)

variable (r : TwoFields ε α β γ) {a : Option α} {b : Option β} {c : γ}
variable {members : List (String × Json)} {value : Json} {rest : List Json} {slot : Slot}

lemma readMembers_unique {other : Option α → Option β → List (String × Json) → Except ε γ}
    (hnil : ∀ a b, other a b [] = r.finish a b)
    (hcons : ∀ a b name value members, other a b ((name, value) :: members) =
      if name = r.first then
        if a.isSome then .error r.fault
        else (r.readFirst value).bind fun a => other (some a) b members
      else if name = r.second then
        if b.isSome then .error r.fault
        else (r.readSecond value).bind fun b => other a (some b) members
      else other a b members) : other a b members = r.readMembers a b members := by
  induction members generalizing a b with
  | nil => exact hnil a b
  | cons member members ih =>
    obtain ⟨name, value⟩ := member
    simp only [hcons, readMembers, ih]

/-- Each field is taken for itself, although the members are gone through once. -/
lemma readMembers_ok : r.readMembers a b members = .ok c ↔ ∃ a' b',
    Takes r.first r.readFirst members a a' ∧ Takes r.second r.readSecond members b b' ∧
      r.finish a' b' = .ok c := by
  induction members generalizing a b with
  | nil => simp [readMembers, Takes.nil_iff]
  | cons member members ih =>
    obtain ⟨name, value⟩ := member
    rw [readMembers]
    by_cases hfirst : name = r.first
    · subst hfirst
      simp only [if_true, Takes.cons_iff, Takes.tail_iff r.distinct]
      cases a with
      | some _ => simp
      | none =>
        simp only [Option.isSome_none, Bool.false_eq_true, if_false, bind_ok, ih, true_and]
        constructor
        · rintro ⟨a, hread, a', b', ha, hb, hfinish⟩
          exact ⟨a', b', ⟨a, hread, ha⟩, hb, hfinish⟩
        · rintro ⟨a', b', ⟨a, hread, ha⟩, hb, hfinish⟩
          exact ⟨a, hread, a', b', ha, hb, hfinish⟩
    by_cases hsecond : name = r.second
    · subst hsecond
      simp only [if_neg hfirst, if_true, Takes.cons_iff, Takes.tail_iff hfirst]
      cases b with
      | some _ => simp
      | none =>
        simp only [Option.isSome_none, Bool.false_eq_true, if_false, bind_ok, ih, true_and]
        constructor
        · rintro ⟨b, hread, a', b', ha, hb, hfinish⟩
          exact ⟨a', b', ha, ⟨b, hread, hb⟩, hfinish⟩
        · rintro ⟨a', b', ha, ⟨b, hread, hb⟩, hfinish⟩
          exact ⟨b, hread, a', b', ha, hb, hfinish⟩
    · simp only [if_neg hfirst, if_neg hsecond, ih, Takes.tail_iff hfirst, Takes.tail_iff hsecond]

lemma readItems_ok : r.readItems value rest = .ok c ↔
    ∃ a, r.readFirst value = .ok a ∧ ∃ b, r.Beside (.item rest) b ∧ c = r.build a b := by
  constructor
  · intro h
    match rest with
    | [] =>
      obtain ⟨a, hread, h⟩ := bind_ok.mp h
      exact ⟨a, hread, none, .alone, (Except.ok.inj h).symm⟩
    | [second] =>
      obtain ⟨a, hread, h⟩ := bind_ok.mp h
      obtain ⟨b, hsecond, h⟩ := bind_ok.mp h
      exact ⟨a, hread, some b, .item hsecond, (Except.ok.inj h).symm⟩
    | second :: third :: rest =>
      obtain ⟨a, hread, h⟩ := bind_ok.mp h
      obtain ⟨b, hsecond, ⟨⟩⟩ := bind_ok.mp h
  · rintro ⟨a, hread, _, hbeside, rfl⟩
    cases hbeside with
    | alone => exact bind_ok.mpr ⟨a, hread, rfl⟩
    | item hsecond => exact bind_ok.mpr ⟨a, hread, bind_ok.mpr ⟨_, hsecond, rfl⟩⟩

lemma read_ok : r.read value slot = .ok c ↔
    ∃ a, r.readFirst value = .ok a ∧ ∃ b, r.Beside slot b ∧ c = r.build a b := by
  cases slot with
  | item rest => exact r.readItems_ok
  | member before after =>
    rw [read, readMembers_ok]
    simp only [Takes.around_iff, Takes.skip_iff r.distinct]
    constructor
    · rintro ⟨_, b, ⟨a, hread, hothers, rfl⟩, hb, hfinish⟩
      rw [r.finish_some] at hfinish
      exact ⟨a, hread, b, .member hothers hb, (Except.ok.inj hfinish).symm⟩
    · rintro ⟨a, hread, b, hbeside, rfl⟩
      cases hbeside with
      | member hothers hb => exact ⟨_, b, ⟨a, hread, hothers, rfl⟩, hb, r.finish_some a b⟩

end TwoFields

namespace Json

variable {s : List Char} {fuel : Nat}

lemma readValue_blank (h : s.all Text.isBlank = true) : readValue (fuel + 1) s = .broken := by
  have hrest : ∀ c ∈ skipSpace s, Text.isBlank c = true := fun c hc =>
    List.all_eq_true.mp h c ((List.dropWhile_sublist _).subset hc)
  rw [readValue]
  split
  case h_8 =>
    cases hs : skipSpace s with
    | nil => rfl
    | cons c rest =>
      have hc : ¬ c.isDigit = true := fun hdigit => by
        have hblank := hrest c (hs ▸ List.mem_cons_self)
        rw [Text.isBlank_of_isDigit hdigit] at hblank
        cases hblank
      rw [readNumber, List.span_eq_takeWhile_dropWhile, List.takeWhile_cons_of_neg hc]
      rfl
  all_goals
    next hs =>
      have hblank := hrest _ (hs ▸ List.mem_cons_self)
      exact absurd hblank (by decide)

lemma read_blank {raw : String} (h : Text.isBlankText raw = true) :
    read raw = (.unreadable, false) := by
  rw [read, readValue_blank h]
  rfl

end Json

namespace PortSpec

def fields : TwoFields MetadataError UInt16 String PortSpec where
  first := "port"
  second := "protocol"
  distinct := by decide
  readFirst := readPort
  readSecond := readProtocol
  build port protocol := ⟨port, protocol.getD ""⟩
  finish
    | some port, protocol => .ok ⟨port, protocol.getD ""⟩
    | none, _ => .error .malformed
  finish_some _ _ := rfl
  fault := .malformed

lemma readMembers_eq {port : Option UInt16} {protocol : Option String}
    {members : List (String × Json)} :
    readMembers port protocol members = fields.readMembers port protocol members :=
  fields.readMembers_unique (fun port _ => by cases port <;> rfl) fun _ _ _ _ _ => rfl

lemma read_fill (value : Json) (slot : Slot) :
    read (slot.fill "port" value) = fields.read value slot := by
  cases slot with
  | member before after => exact readMembers_eq
  | item rest =>
    match rest with
    | [] => rfl
    | [_] => rfl
    | _ :: _ :: _ => rfl

/-- Blanks around a plus sign or none, zeros and the digits of a number. -/
def PortText (s : String) (n : Nat) : Prop :=
  ∃ digits, Text.Trimmed Text.isBlank s.toList digits ∧ Text.Spells digits n

variable {s : String} {n : Nat} {port : UInt16}

lemma PortText.inj {m : Nat} (h : PortText s n) (h' : PortText s m) : n = m := by
  obtain ⟨digits, htrim, hspell⟩ := h
  obtain ⟨digits', htrim', hspell'⟩ := h'
  obtain rfl := (Text.trimmed_iff.mp htrim).symm.trans (Text.trimmed_iff.mp htrim')
  exact hspell.inj hspell'

lemma readPort_string : readPort (.string s) = .ok port ↔ PortText s port.toNat := by
  have hsome : portOfText? s = some port ↔ PortText s port.toNat := by
    simp only [portOfText?, Option.map_eq_some_iff, Option.filter_eq_some_iff,
      Text.readUnsigned?_iff, decide_eq_true_iff]
    constructor
    · rintro ⟨n, ⟨hspell, hn⟩, rfl⟩
      rw [UInt16.toNat_ofNat_of_lt' hn]
      exact ⟨_, Text.trimmed_iff.mpr rfl, hspell⟩
    · rintro ⟨digits, htrim, hspell⟩
      obtain rfl := Text.trimmed_iff.mp htrim
      exact ⟨_, ⟨hspell, port.toNat_lt⟩, UInt16.ofNat_toNat⟩
  rw [readPort]
  split
  · next found hfound => rw [← hsome, hfound, Except.ok.injEq, Option.some.injEq]
  · next hnone => rw [← hsome, hnone]; exact ⟨nofun, nofun⟩

lemma readPort_number {t : Json.Numeral} : readPort t.value = .ok port ↔
    t.negative = false ∧ t.fraction = none ∧ t.exponent = none ∧
      Text.ofDigits t.whole.text = port.toNat := by
  have hsmall : port.toNat < UInt64.size := port.toNat_lt.trans (by decide)
  have hport : Json.uint16? t.value = some port ↔ t.negative = false ∧ t.fraction = none ∧
      t.exponent = none ∧ Text.ofDigits t.whole.text = port.toNat := by
    rw [Json.uint16?_eq_some, Json.value_eq_int]
    simp only [hsmall, and_true]
  rw [← hport, readPort]
  · split
    · next found hfound => rw [hfound, Except.ok.injEq, Option.some.injEq]
    · next hnone => rw [hnone]; exact ⟨nofun, nofun⟩
  · intro text htext
    rcases Json.value_cases t with h | ⟨n, h⟩ <;> cases htext.symm.trans h

end PortSpec

namespace ExecutionMetadata

open PortSpec

def fields : TwoFields MetadataError (Option (List PortSpec)) (Option String)
    ExecutionMetadata where
  first := "ports"
  second := "user"
  distinct := by decide
  readFirst := readPorts
  readSecond := readUser
  build ports user := ⟨ports, user.join⟩
  finish ports user := .ok ⟨ports.join, user.join⟩
  finish_some _ _ := rfl
  fault := .malformed

lemma readMembers_eq {ports : Option (Option (List PortSpec))} {user : Option (Option String)}
    {members : List (String × Json)} :
    readMembers ports user members = fields.readMembers ports user members :=
  fields.readMembers_unique (fun _ _ => rfl) fun _ _ _ _ _ => rfl

lemma read_fill (value : Json) (slot : Slot) :
    read (slot.fill "ports" value) = fields.read value slot := by
  cases slot with
  | member before after => exact readMembers_eq
  | item rest =>
    match rest with
    | [] => rfl
    | [_] => rfl
    | _ :: _ :: _ => rfl

variable {raw : String} {document : Json} {m : ExecutionMetadata}

lemma parse_iff (h : Json.parse? raw = some document) :
    parse raw = .ok m ↔ read document = .ok m := by
  rw [Json.parse?] at h
  split at h
  · next value hvalue =>
    obtain rfl := Option.some.inj h
    have hblank : Text.isBlankText raw ≠ true := fun hblank => by
      rw [Json.read_blank hblank] at hvalue
      cases hvalue
    rw [parse, if_neg hblank, hvalue]
    dsimp only
    split
    · next hread => rw [hread]
    · next hread => rw [hread, if_pos rfl]
  · cases h

lemma parse_refused (h : (Json.read raw).1 = document) (hdocument : document ≠ .unreadable)
    (hread : ∀ m, read document ≠ .ok m) : ∃ e, parse raw = .error e := by
  subst h
  have hblank : Text.isBlankText raw ≠ true := fun hblank => by
    rw [Json.read_blank hblank] at hdocument
    exact hdocument rfl
  rw [parse, if_neg hblank]
  dsimp only
  split
  · exact ⟨_, rfl⟩
  · next hok => exact (hread _ hok).elim

end ExecutionMetadata

/-- Where a document has a port, and all that it has around it. -/
structure PortPlace where
  document : Slot
  ahead : List Json
  spec : Slot
  behind : List Json

namespace PortPlace

def fill (p : PortPlace) (value : Json) : Json :=
  p.document.fill "ports" (.array (p.ahead ++ p.spec.fill "port" value :: p.behind))

/-- What is read around a port: the ports before it and behind it, its protocol, and the user. -/
structure Rest (p : PortPlace) where
  before : List PortSpec
  protocol : Option String
  after : List PortSpec
  user : Option (Option String)
  ahead : List.Forall₂ (fun item spec => PortSpec.read item = .ok spec) p.ahead before
  beside : PortSpec.fields.Beside p.spec protocol
  behind : List.Forall₂ (fun item spec => PortSpec.read item = .ok spec) p.behind after
  around : ExecutionMetadata.fields.Beside p.document user

def Rest.metadata {p : PortPlace} (rest : p.Rest) (port : UInt16) : ExecutionMetadata :=
  ⟨some (rest.before ++ ⟨port, rest.protocol.getD ""⟩ :: rest.after), rest.user.join⟩

variable {p : PortPlace} {value : Json} {m : ExecutionMetadata}

lemma read_fill : ExecutionMetadata.read (p.fill value) = .ok m ↔
    ∃ port, PortSpec.readPort value = .ok port ∧ ∃ rest : p.Rest, m = rest.metadata port := by
  rw [fill, ExecutionMetadata.read_fill, TwoFields.read_ok]
  constructor
  · rintro ⟨_, hports, user, haround, rfl⟩
    obtain ⟨_, hspecs, rfl⟩ := map_ok.mp hports
    obtain ⟨before, spec, after, hahead, hspec, hbehind, rfl⟩ := mapM_around.mp hspecs
    rw [PortSpec.read_fill, TwoFields.read_ok] at hspec
    obtain ⟨port, hport, protocol, hbeside, rfl⟩ := hspec
    exact ⟨port, hport,
      ⟨before, protocol, after, user, mapM_ok.mp hahead, hbeside, mapM_ok.mp hbehind, haround⟩, rfl⟩
  · rintro ⟨port, hport, rest, rfl⟩
    have hspec : PortSpec.read (p.spec.fill "port" value) = .ok ⟨port, rest.protocol.getD ""⟩ := by
      rw [PortSpec.read_fill, TwoFields.read_ok]
      exact ⟨port, hport, rest.protocol, rest.beside, rfl⟩
    have hspecs := mapM_around.mpr
      ⟨_, _, _, mapM_ok.mpr rest.ahead, hspec, mapM_ok.mpr rest.behind, rfl⟩
    exact ⟨_, map_ok.mpr ⟨_, hspecs, rfl⟩, rest.user, rest.around, rfl⟩

lemma fill_ne_unreadable (p : PortPlace) (value : Json) : p.fill value ≠ .unreadable := by
  rw [fill]
  cases p.document <;> nofun

variable {raw : String} {n : Nat}

lemma accepts (hvalue : ∀ port, PortSpec.readPort value = .ok port ↔ port.toNat = n)
    (hraw : Json.parse? raw = some (p.fill value)) : ExecutionMetadata.parse raw = .ok m ↔
      n ≤ 65535 ∧ ∃ rest : p.Rest, m = rest.metadata (.ofNat n) := by
  rw [ExecutionMetadata.parse_iff hraw, read_fill]
  constructor
  · rintro ⟨port, hport, hrest⟩
    obtain rfl := (hvalue port).mp hport
    rw [UInt16.ofNat_toNat]
    exact ⟨Nat.le_of_lt_succ port.toNat_lt, hrest⟩
  · rintro ⟨hn, hrest⟩
    exact ⟨_, (hvalue _).mpr (UInt16.toNat_ofNat_of_lt' (Nat.lt_succ_of_le hn)), hrest⟩

lemma refuses (hvalue : ∀ port, PortSpec.readPort value ≠ .ok port)
    (hraw : (Json.read raw).1 = p.fill value) : ∃ e, ExecutionMetadata.parse raw = .error e := by
  refine ExecutionMetadata.parse_refused hraw (p.fill_ne_unreadable value) fun m hm => ?_
  obtain ⟨port, hport, -⟩ := read_fill.mp hm
  exact hvalue port hport

end PortPlace

open PortSpec ExecutionMetadata in
/--
A text and the number that it spells give the same metadata if they are ports and all around them
is read, and none if they are not. A value that is no port fails the document wherever it stands.
-/
theorem port_spellings_agree (p : PortPlace) :
    (∀ s n, PortText s n → ∀ text number, Json.parse? text = some (p.fill (.string s)) →
      Json.parse? number = some (p.fill (Json.Numeral.ofNat n).value) → ∀ m,
        (parse text = .ok m ↔ n ≤ 65535 ∧ ∃ rest : p.Rest, m = rest.metadata (.ofNat n)) ∧
        (parse number = .ok m ↔ n ≤ 65535 ∧ ∃ rest : p.Rest, m = rest.metadata (.ofNat n))) ∧
    (∀ s, (∀ n, ¬ PortText s n) → ∀ raw, (Json.read raw).1 = p.fill (.string s) →
      ∃ e, parse raw = .error e) ∧
    ∀ t : Json.Numeral, Json.parse? t.text = some t.value ∧
      (t.negative = true ∨ t.fraction ≠ none ∨ t.exponent ≠ none →
        ∀ raw, (Json.read raw).1 = p.fill t.value → ∃ e, parse raw = .error e) := by
  refine ⟨fun s n hs text number htext hnumber m => ⟨?_, ?_⟩, fun s hs => ?_, fun t => ?_⟩
  · have hvalue : ∀ port, readPort (.string s) = .ok port ↔ port.toNat = n := fun port =>
      readPort_string.trans ⟨fun h => h.inj hs, fun h => h ▸ hs⟩
    exact PortPlace.accepts hvalue htext
  · refine PortPlace.accepts (fun port => readPort_number.trans ?_) hnumber
    simp [Json.Numeral.ofNat, Text.ofDigits_toDigits, eq_comm]
  · exact fun raw => PortPlace.refuses fun port hport => hs _ (readPort_string.mp hport)
  · refine ⟨Json.parse?_text t, fun h raw => PortPlace.refuses fun port hport => ?_⟩
    obtain ⟨hnegative, hfraction, hexponent, -⟩ := readPort_number.mp hport
    simp [hnegative, hfraction, hexponent] at h

namespace Sample

def webPort : PortPlace where
  document := .member [] [("user", .string "app")]
  ahead := [.array [.string "53", .string "udp"]]
  spec := .member [] [("protocol", .string "tcp")]
  behind := []

def portsText (port : String) : String :=
  "\x7b\"ports\": [[\"53\", \"udp\"], \x7b\"port\": " ++ port ++
    ", \"protocol\": \"tcp\"\x7d], \"user\": \"app\"\x7d"

def eightyPointZero : Json.Numeral :=
  { Json.Numeral.ofNat 80 with
    fraction := some ⟨['0'], by decide, List.forall_mem_singleton.mpr rfl⟩ }

end Sample

open Sample in
theorem port_spellings_agree_of_web : ∃ m : ExecutionMetadata,
    m.ports = some [⟨53, "udp"⟩, ⟨80, "tcp"⟩] ∧
      ExecutionMetadata.parse (portsText "\" +0080 \"") = .ok m ∧
      ExecutionMetadata.parse (portsText "80") = .ok m ∧
      (∃ e, ExecutionMetadata.parse (portsText "\"+\"") = .error e) ∧
      ∃ e, ExecutionMetadata.parse (portsText "80.0") = .error e := by
  obtain ⟨haccept, hreject, hnumbers⟩ := port_spellings_agree webPort
  have htext : ExecutionMetadata.parse (portsText "\" +0080 \"") =
      .ok ⟨some [⟨53, "udp"⟩, ⟨80, "tcp"⟩], some "app"⟩ := eq_of_toOption (by decide +kernel)
  have hspelled : PortSpec.PortText " +0080 " 80 :=
    ⟨_, Text.trimmed_iff.mpr rfl, Text.readUnsigned?_iff.mp (by decide)⟩
  have hboth := haccept _ _ hspelled (portsText "\" +0080 \"") (portsText "80")
    (by decide +kernel) (by decide +kernel)
  have hsign : ∀ n, ¬ PortSpec.PortText "+" n := by
    rintro n ⟨digits, htrim, hspell⟩
    obtain rfl := Text.trimmed_iff.mp htrim
    have hnone : Text.readUnsigned? (Text.trimWhile Text.isBlank "+".toList) = none := by decide
    rw [Text.readUnsigned?_iff.mpr hspell] at hnone
    cases hnone
  exact ⟨_, rfl, htext, (hboth _).2.mpr ((hboth _).1.mp htext),
    hreject "+" hsign _ (by decide +kernel),
    (hnumbers eightyPointZero).2 (.inr (.inl nofun)) _ (by decide +kernel)⟩

end Rollout
