import Rollout.Proofs.Graph.Delivery

/-! Which ports an image declares, and which of them a container listens on. -/

namespace Rollout

namespace ExecutionMetadata

variable {raw : String} {document : Json} {m : ExecutionMetadata} {declared : List PortSpec}
variable {ports : Option (Option (List PortSpec))} {user : Option (Option String)}
variable {members : List (String × Json)}

/-- What a document has as its ports, by name or in the first place. -/
def portsMember : Json → Option Json
  | .object members => members.lookup "ports"
  | .array items => items.head?
  | _ => none

lemma readMembers_ports (h : readMembers ports user members = .ok m) :
    (members.lookup "ports" = none ∧ m.ports = ports.join) ∨
      ∃ value, members.lookup "ports" = some value ∧ ports = none ∧
        readPorts value = .ok m.ports := by
  induction members generalizing ports user with
  | nil =>
    obtain rfl := Except.ok.inj h
    exact .inl ⟨rfl, rfl⟩
  | cons member members ih =>
    obtain ⟨name, value⟩ := member
    rw [readMembers] at h
    split at h
    · next hname =>
      subst hname
      split at h
      · cases h
      · next hfirst =>
        obtain ⟨found, hfound, h⟩ := bind_ok.mp h
        rcases ih h with ⟨hlookup, hports⟩ | ⟨_, _, ⟨⟩, _⟩
        · refine .inr ⟨value, List.lookup_cons_self, by simpa using hfirst, ?_⟩
          rw [hfound, hports]
          rfl
    · next hname =>
      have hskip : ((name, value) :: members).lookup "ports" = members.lookup "ports" := by
        rw [List.lookup_cons, beq_false_of_ne (Ne.symm hname)]
      rw [hskip]
      split at h
      · split at h
        · cases h
        · obtain ⟨found, -, h⟩ := bind_ok.mp h
          exact ih h
      · exact ih h

/-- What a ports member declares, in the absence of it and for null no ports. -/
inductive Lists : Option Json → List PortSpec → Prop
  | absent : Lists none []
  | null : Lists (some .null) []
  | array {items : List Json} {declared : List PortSpec} :
      items.mapM PortSpec.read = .ok declared → Lists (some (.array items)) declared

lemma Lists.functional {value : Option Json} {other : List PortSpec} (h : Lists value declared)
    (h' : Lists value other) : declared = other := by
  cases h with
  | absent =>
    cases h'
    rfl
  | null =>
    cases h'
    rfl
  | array hitems =>
    cases h' with
    | array hitems' => exact Except.ok.inj (hitems.symm.trans hitems')

lemma lists_of_readPorts {value : Json} {found : Option (List PortSpec)}
    (h : readPorts value = .ok found) : Lists (some value) (found.getD []) := by
  cases value with
  | null =>
    obtain rfl := Except.ok.inj h
    exact .null
  | array items =>
    obtain ⟨declared, hitems, rfl⟩ := map_ok.mp h
    exact .array hitems
  | _ => cases h

lemma lists_of_read (h : read document = .ok m) :
    Lists (portsMember document) (m.ports.getD []) := by
  cases document with
  | object members =>
    rw [portsMember]
    rcases readMembers_ports h with ⟨hlookup, hports⟩ | ⟨value, hlookup, -, hread⟩
    · rw [hlookup, hports]
      exact .absent
    · rw [hlookup]
      exact lists_of_readPorts hread
  | array items =>
    match items with
    | [] =>
      obtain rfl := Except.ok.inj h
      exact .absent
    | [value] =>
      obtain ⟨found, hfound, rfl⟩ := map_ok.mp h
      exact lists_of_readPorts hfound
    | value :: second :: rest =>
      obtain ⟨found, hfound, h⟩ := bind_ok.mp h
      obtain ⟨user, -, h⟩ := bind_ok.mp h
      split at h
      · obtain rfl := Except.ok.inj h
        exact lists_of_readPorts hfound
      · cases h
  | _ => cases h

/-- A text declares ports in the document that it is, and none if it is blank. -/
def Declares (raw : String) (declared : List PortSpec) : Prop :=
  if Text.isBlankText raw then declared = []
  else ∃ document, Json.parse? raw = some document ∧ Lists (portsMember document) declared

lemma parse_document (hblank : Text.isBlankText raw = false) (h : parse raw = .ok m) :
    ∃ document, Json.parse? raw = some document ∧ read document = .ok m := by
  rcases hscan : Json.read raw with ⟨document, complete⟩
  rw [parse, if_neg (Bool.eq_false_iff.mp hblank), hscan] at h
  rw [Json.parse?, hscan]
  dsimp only at h
  split at h
  · cases h
  · next hread =>
    split at h
    · next hcomplete =>
      obtain rfl := Except.ok.inj h
      subst hcomplete
      exact ⟨document, rfl, hread⟩
    · cases h

lemma declares_iff (h : parse raw = .ok m) : Declares raw declared ↔ declared = m.ports.getD [] := by
  rw [Declares]
  split
  · next hblank =>
    rw [parse, if_pos hblank] at h
    obtain rfl := Except.ok.inj h
    rfl
  · next hblank =>
    obtain ⟨document, hdocument, hread⟩ := parse_document (Bool.eq_false_iff.mpr hblank) h
    have hlists : Lists (portsMember document) (m.ports.getD []) := lists_of_read hread
    constructor
    · rintro ⟨other, hother, hdeclared⟩
      obtain rfl := Option.some.inj (hdocument.symm.trans hother)
      exact hdeclared.functional hlists
    · rintro rfl
      exact ⟨document, hdocument, hlists⟩

end ExecutionMetadata

def tcpPorts (declared : List PortSpec) : List UInt16 :=
  (declared.filter (·.protocol = "tcp")).map (·.port)

/-- The ports of a container on which `explicit` ports are set and whose image has the `declared`. -/
inductive Listens (explicit : List UInt16) (declared : List PortSpec) (default : UInt16) :
    Except PortError (List UInt16) → Prop
  | explicit : explicit ≠ [] → Listens explicit declared default (.ok explicit)
  | default : explicit = [] → declared = [] → Listens explicit declared default (.ok [default])
  | tcp : explicit = [] → tcpPorts declared ≠ [] →
      Listens explicit declared default (.ok (tcpPorts declared))
  | unreachable : explicit = [] → declared ≠ [] → (∀ spec ∈ declared, spec.protocol ≠ "tcp") →
      Listens explicit declared default (.error .noTcpPorts)

section Resolution

variable {explicit : List UInt16} {declared : List PortSpec} {metadata : ExecutionMetadata}
variable {default : UInt16} {ports : List UInt16} {x : Except PortError (List UInt16)}

lemma tcpPorts_eq_nil : tcpPorts declared = [] ↔ ∀ spec ∈ declared, spec.protocol ≠ "tcp" := by
  simp [tcpPorts]

lemma filter_isTcp : (declared.filter PortSpec.isTcp).map (·.port) = tcpPorts declared := by
  have htcp : PortSpec.isTcp = fun spec => decide (spec.protocol = "tcp") := rfl
  rw [htcp, tcpPorts]

lemma resolvePorts_unset : resolvePorts [] metadata default =
    if metadata.ports.getD [] = [] then .ok [default]
    else if tcpPorts (metadata.ports.getD []) = [] then .error .noTcpPorts
    else .ok (tcpPorts (metadata.ports.getD [])) := by
  rw [resolvePorts.eq_def]
  rcases metadata.ports with _ | _ | ⟨first, rest⟩
  · rfl
  · rfl
  · dsimp only
    rw [filter_isTcp, Option.getD_some, if_neg (List.cons_ne_nil _ _)]
    split
    · next hnone => rw [if_pos hnone]
    · next hsome => rw [if_neg hsome]

lemma resolvePorts_iff : resolvePorts explicit metadata default = x ↔
    Listens explicit (metadata.ports.getD []) default x := by
  constructor
  · rintro rfl
    cases explicit with
    | cons port ports => exact .explicit (List.cons_ne_nil _ _)
    | nil =>
      rw [resolvePorts_unset]
      split
      · next hnone => exact .default rfl hnone
      · next hdeclared =>
        split
        · next hnone => exact .unreachable rfl hdeclared (tcpPorts_eq_nil.mp hnone)
        · next hsome => exact .tcp rfl hsome
  · intro h
    cases h with
    | explicit hne =>
      obtain ⟨port, ports, rfl⟩ := List.exists_cons_of_ne_nil hne
      rfl
    | default hunset hnone => rw [hunset, resolvePorts_unset, if_pos hnone]
    | tcp hunset hsome =>
      have hdeclared : metadata.ports.getD [] ≠ [] := fun hnone => hsome (by rw [hnone]; rfl)
      rw [hunset, resolvePorts_unset, if_neg hdeclared, if_neg hsome]
    | unreachable hunset hdeclared hnone =>
      rw [hunset, resolvePorts_unset, if_neg hdeclared, if_pos (tcpPorts_eq_nil.mpr hnone)]

lemma Listens.ne_nil (h : Listens explicit declared default (.ok ports)) : ports ≠ [] := by
  cases h with
  | explicit hne => exact hne
  | default _ _ => exact List.cons_ne_nil _ _
  | tcp _ hsome => exact hsome

end Resolution

end Rollout
