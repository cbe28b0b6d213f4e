import Rollout.Proofs.Json.Codec
import Rollout.Proofs.Json.Normal
import Rollout.Proofs.Time.Rfc3339
import Rollout.Record.AppProcess
import Rollout.Record.Deployment
import Rollout.Record.RouteMapping

/-! Records read back from their documents. -/

namespace Rollout

namespace Json

section Nullable

variable {kind : RecordKind}

@[simp] lemma nullable_guid (g : Option (Guid kind)) :
    nullable Guid.ofJson? (ofText? (g.map (·.text))) = some g := by
  cases g <;> rfl

@[simp] lemma nullable_seconds (n : Option UInt32) :
    nullable uint32? (HealthCheck.seconds n) = some n := by
  cases n with
  | none => rfl
  | some n => exact nullable_uint32 n

end Nullable

end Json

attribute [simp] Guid.ofJson?_toJson ProcessType.ofJson?_toJson

@[simp] lemma HealthCheckType.ofJson?_toJson (t : HealthCheckType) : ofJson? t.toJson = some t := by
  cases t <;> rfl

@[simp] lemma ProcessState.ofJson?_toJson (s : ProcessState) : ofJson? s.toJson = some s := by
  cases s <;> rfl

@[simp] lemma DeploymentState.ofJson?_toJson (s : DeploymentState) : ofJson? s.toJson = some s := by
  cases s <;> rfl

@[simp] lemma RevisionRef.ofJson?_toJson (r : RevisionRef) : ofJson? r.toJson = some r := by
  rw [ofJson?, toJson, Json.fields?_object (by decide) (by simp)]
  simp

@[simp] lemma HealthCheck.ofJson?_toJson (h : HealthCheck) : ofJson? h.toJson = some h := by
  rw [ofJson?, toJson, Json.fields?_object (by decide) (by simp)]
  simp

namespace Json

@[simp] lemma nullable_revision (r : RevisionRef) :
    nullable RevisionRef.ofJson? r.toJson = some (some r) :=
  nullable_of_read (by simp [RevisionRef.toJson]) r.ofJson?_toJson

@[simp] lemma nullable_ports (ports : Option (List UInt16)) :
    nullable (list? uint16?) (AppProcess.portsJson ports) = some ports := by
  cases ports with
  | none => rfl
  | some ports =>
    exact nullable_of_read (by simp [AppProcess.portsJson]) (list?_map fun n _ => uint16?_nat n)

lemma Fields.legible_of_need {fields : Fields} {name : String} {t : Instant}
    (h : fields.need name Instant.ofJson? = some t) : t.Legible := by
  obtain ⟨v, -, hv⟩ := Option.bind_eq_some_iff.mp h
  exact Instant.legible_of_ofJson? hv

end Json

open Json (Codec)

namespace App

def Legible (a : App) : Prop := a.createdAt.Legible

lemma codec : Codec Legible toJson ofJson? where
  reads_back := by
    intro a h
    rw [toJson, ofJson?, Json.fields?_object (by decide) (by simp [fieldNames])]
    simp [Instant.ofJson?_toJson h]
  legible_of_read := by
    intro j a h
    simp only [ofJson?, Json.bind_eq_some, Option.pure_def] at h
    obtain ⟨fields, -, _, -, _, -, _, -, _, -, _, -, _, htime, h⟩ := h
    cases h
    exact Json.Fields.legible_of_need htime

end App

namespace Droplet

def Legible (d : Droplet) : Prop := d.createdAt.Legible

lemma codec : Codec Legible toJson ofJson? where
  reads_back := by
    intro d h
    rw [toJson, ofJson?, Json.fields?_object (by decide) (by simp [fieldNames])]
    simp [Instant.ofJson?_toJson h]
  legible_of_read := by
    intro j d h
    simp only [ofJson?, Json.bind_eq_some, Option.pure_def] at h
    obtain ⟨fields, -, _, -, _, -, _, -, _, -, _, htime, h⟩ := h
    cases h
    exact Json.Fields.legible_of_need htime

end Droplet

namespace Revision

def Legible (r : Revision) : Prop := r.createdAt.Legible

lemma codec : Codec Legible toJson ofJson? where
  reads_back := by
    intro r h
    rw [toJson, ofJson?, Json.fields?_object (by decide) (by simp [fieldNames])]
    simp [Instant.ofJson?_toJson h]
  legible_of_read := by
    intro j r h
    simp only [ofJson?, Json.bind_eq_some, Option.pure_def] at h
    obtain ⟨fields, -, _, -, _, -, _, -, _, -, _, htime, h⟩ := h
    cases h
    exact Json.Fields.legible_of_need htime

end Revision

namespace AppProcess

def Legible (p : AppProcess) : Prop := p.createdAt.Legible ∧ p.updatedAt.Legible

lemma codec : Codec Legible toJson ofJson? where
  reads_back := by
    intro p h
    rw [toJson, ofJson?, Json.fields?_object (by decide) (by simp [fieldNames])]
    simp [-Option.bind_eq_bind, Json.some_bind, Instant.ofJson?_toJson h.1, Instant.ofJson?_toJson h.2]
  legible_of_read := by
    intro j p h
    simp only [ofJson?, Json.bind_eq_some, Option.pure_def] at h
    obtain ⟨fields, -, _, -, _, -, _, -, _, -, _, -, _, -, _, -, _, -, _, -, _, -, _, -, _, -, _,
      -, _, -, _, -, _, -, _, hcreated, _, hupdated, h⟩ := h
    cases h
    exact ⟨Json.Fields.legible_of_need hcreated, Json.Fields.legible_of_need hupdated⟩

end AppProcess

namespace RouteMapping

def Legible (m : RouteMapping) : Prop := m.createdAt.Legible

lemma codec : Codec Legible toJson ofJson? where
  reads_back := by
    intro m h
    rw [toJson, ofJson?, Json.fields?_object (by decide) (by simp [fieldNames])]
    obtain ⟨_, _, _, _, _ | weight, _⟩ := m <;> simp [Instant.ofJson?_toJson h]
  legible_of_read := by
    intro j m h
    simp only [ofJson?, Json.bind_eq_some, Option.pure_def] at h
    obtain ⟨fields, -, _, -, _, -, _, -, _, -, _, -, _, htime, h⟩ := h
    cases h
    exact Json.Fields.legible_of_need htime

end RouteMapping

namespace Deployment

def Legible (d : Deployment) : Prop := d.createdAt.Legible ∧ d.updatedAt.Legible

lemma codec : Codec Legible toJson ofJson? where
  reads_back := by
    intro d h
    rw [toJson, ofJson?, Json.fields?_object (by decide) (by simp [fieldNames])]
    obtain ⟨_, _, _, _, _, _, _, _ | revision, _, _⟩ := d <;>
      simp [Instant.ofJson?_toJson h.1, Instant.ofJson?_toJson h.2]
  legible_of_read := by
    intro j d h
    simp only [ofJson?, Json.bind_eq_some, Option.pure_def] at h
    obtain ⟨fields, -, _, -, _, -, _, -, _, -, _, -, _, -, _, -, _, -, _, hcreated, _, hupdated,
      h⟩ := h
    cases h
    exact ⟨Json.Fields.legible_of_need hcreated, Json.Fields.legible_of_need hupdated⟩

end Deployment

namespace HistoricalProcess

def Legible (h : HistoricalProcess) : Prop := h.createdAt.Legible

lemma codec : Codec Legible toJson ofJson? where
  reads_back := by
    intro p h
    rw [toJson, ofJson?, Json.fields?_object (by decide) (by simp [fieldNames])]
    simp [Instant.ofJson?_toJson h]
  legible_of_read := by
    intro j h h
    simp only [ofJson?, Json.bind_eq_some, Option.pure_def] at h
    obtain ⟨fields, -, _, -, _, -, _, -, _, htime, h⟩ := h
    cases h
    exact Json.Fields.legible_of_need htime

end HistoricalProcess

open Json (RoundTrip)

theorem records_persist :
    RoundTrip App.Legible App.toJson App.ofJson? ∧
    RoundTrip Droplet.Legible Droplet.toJson Droplet.ofJson? ∧
    RoundTrip Revision.Legible Revision.toJson Revision.ofJson? ∧
    RoundTrip AppProcess.Legible AppProcess.toJson AppProcess.ofJson? ∧
    RoundTrip RouteMapping.Legible RouteMapping.toJson RouteMapping.ofJson? ∧
    RoundTrip Deployment.Legible Deployment.toJson Deployment.ofJson? ∧
    RoundTrip HistoricalProcess.Legible HistoricalProcess.toJson HistoricalProcess.ofJson? :=
  ⟨App.codec.roundTrip, Droplet.codec.roundTrip, Revision.codec.roundTrip,
    AppProcess.codec.roundTrip, RouteMapping.codec.roundTrip, Deployment.codec.roundTrip,
    HistoricalProcess.codec.roundTrip⟩

/-- A worker with a name, a health check over HTTP, no ports of its own and nested metadata. -/
def mailer : AppProcess where
  __ := AppProcess.initial ⟨"p-1"⟩ ⟨"a-1"⟩ (.worker "mailer") ⟨1709164799, 1500000000⟩
  healthCheck := ⟨.http, some 60, none, some "/health"⟩
  ports := some []
  metadata := {
    members := [("labels", .object [("env", .null), ("tier", .array [.nat 1, .string "a"])])]
    normal := by
      simp only [Json.IsNormal, Json.MembersNormal, Json.AllNormal, Json.nat, List.pairwise_cons,
        List.mem_singleton, List.not_mem_nil, forall_eq, false_implies, implies_true, and_true,
        true_and, List.Pairwise.nil]
      decide }

theorem records_persist_mailer :
    mailer.Legible ∧ AppProcess.ofJson? mailer.toJson = some mailer := by
  have hlegible : mailer.Legible :=
    ⟨Instant.legible_iff_inRange.mpr (by decide), Instant.legible_iff_inRange.mpr (by decide)⟩
  obtain ⟨-, -, -, hprocess, -⟩ := records_persist
  exact ⟨hlegible, hprocess.reads_back hlegible⟩

end Rollout
