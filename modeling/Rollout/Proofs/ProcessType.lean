import Mathlib.Data.List.Basic
import Mathlib.Tactic.Lemma
import Rollout.Deploy.Replicate

/-! Which process types a label may stand for. -/

namespace Rollout

namespace ProcessType

variable {t t' : ProcessType} {text name : String} {d d' : Option DeploymentGuid}

def ofName (name : String) : ProcessType :=
  if name = "web" then .web else if name = "task" then .task else .worker name

lemma label_ofName : (ofName name).label d = name := by
  rw [ofName]
  split
  · next h => rw [h, label]
  · split
    · next h => rw [h, label]
    · rw [label]

lemma ofName_ne_deployingWeb : ofName name ≠ .deployingWeb := by
  rw [ofName]
  split
  · nofun
  · split <;> nofun

lemma ofName_inj {other : String} : ofName name = ofName other ↔ name = other := by
  refine ⟨fun h => ?_, congrArg _⟩
  have hlabel : (ofName name).label none = (ofName other).label none := congrArg (·.label none) h
  rwa [label_ofName, label_ofName] at hlabel

lemma ofName_of_parse (h : parse text = .ok t) :
    t = ofName (Text.trim text) ∧ ¬ reserved.toList <+: (Text.trim text).toList := by
  simp only [parse] at h
  split at h
  · cases h
  split at h
  · cases h
  split at h
  · next hname =>
    obtain rfl := Except.ok.inj h
    rw [hname]
    exact ⟨rfl, by decide⟩
  split at h
  · next hname =>
    obtain rfl := Except.ok.inj h
    rw [hname]
    exact ⟨rfl, by decide⟩
  split at h
  · cases h
  · next hweb htask hreserved =>
    obtain rfl := Except.ok.inj h
    rw [ofName, if_neg hweb, if_neg htask]
    exact ⟨rfl, fun hp => hreserved (List.isPrefixOf_iff_prefix.mpr hp)⟩

/-- A type that is declared by a name, or that of the shadow of a rollout. -/
def InUse (t : ProcessType) : Prop := (∃ text, parse text = .ok t) ∨ t = .deployingWeb

lemma InUse.cases (h : t.InUse) :
    (∃ name, t = ofName name ∧ ¬ reserved.toList <+: name.toList) ∨ t = .deployingWeb := by
  refine h.imp_left ?_
  rintro ⟨text, h⟩
  exact ⟨_, ofName_of_parse h⟩

/-- A declared type has the label of a shadow that names no deployment. -/
def Mistaken (t t' : ProcessType) (d' : Option DeploymentGuid) : Prop :=
  t = .worker "web-deployment" ∧ t' = .deployingWeb ∧ d' = none

lemma not_mistaken_ofName : ¬ Mistaken t (ofName name) d := fun h => ofName_ne_deployingWeb h.2.1

lemma not_mistaken_deployingWeb : ¬ Mistaken .deployingWeb t d := by
  rintro ⟨⟨⟩, -⟩

lemma ofName_label_iff (h : ¬ reserved.toList <+: name.toList) :
    name = deployingWeb.label d ↔ Mistaken (ofName name) .deployingWeb d := by
  cases d with
  | none =>
    constructor
    · rintro rfl
      exact ⟨rfl, rfl, rfl⟩
    · rintro ⟨hname, -, -⟩
      have hlabel : (ofName name).label none = name := label_ofName
      rw [← hlabel, hname]
      rfl
  | some guid =>
    constructor
    · rintro rfl
      exact (h ⟨guid.text.toList, String.toList_append.symm⟩).elim
    · rintro ⟨-, -, ⟨⟩⟩

lemma plain_ne_label (guid : DeploymentGuid) :
    deployingWeb.label none ≠ deployingWeb.label (some guid) := by
  intro h
  have hlength := congrArg String.length h
  rw [label, label, String.length_append] at hlength
  have hplain : "web-deployment".length < reserved.length := by decide
  omega

lemma deployingWeb_label_iff : deployingWeb.label d = deployingWeb.label d' ↔ d = d' := by
  refine ⟨fun h => ?_, congrArg _⟩
  cases d with
  | none =>
    cases d' with
    | none => rfl
    | some guid => exact (plain_ne_label guid h).elim
  | some guid =>
    cases d' with
    | none => exact (plain_ne_label guid h.symm).elim
    | some guid' =>
      rw [label, label, String.append_right_inj] at h
      rw [Guid.text_injective h]

lemma label_eq_iff (h : t.InUse) (h' : t'.InUse) :
    t.label d = t'.label d' ↔
      t = t' ∧ (t = .deployingWeb → d = d') ∨ Mistaken t t' d' ∨ Mistaken t' t d := by
  rcases h.cases with ⟨name, rfl, hname⟩ | rfl
  · rcases h'.cases with ⟨name', rfl, hname'⟩ | rfl
    · rw [label_ofName, label_ofName, ofName_inj]
      simp [not_mistaken_ofName, ofName_ne_deployingWeb]
    · rw [label_ofName, ofName_label_iff hname]
      simp [not_mistaken_deployingWeb, ofName_ne_deployingWeb]
  · rcases h'.cases with ⟨name', rfl, hname'⟩ | rfl
    · rw [label_ofName, eq_comm, ofName_label_iff hname']
      simp [not_mistaken_deployingWeb, ofName_ne_deployingWeb.symm]
    · rw [deployingWeb_label_iff]
      simp [not_mistaken_deployingWeb]

end ProcessType

open ProcessType

/--
Of types in use, a label tells the type, and of shadows of rollouts also the deployment, but for the
label of a shadow without a deployment, which may be declared as a name. The shadow that a rollout
makes has its deployment, so that no other process has its label.
-/
theorem labels_identify {t t' : ProcessType} (h : t.InUse) (h' : t'.InUse)
    (d d' : Option DeploymentGuid) :
    (t.label d = t'.label d' ↔
      t = t' ∧ (t = .deployingWeb → d = d') ∨ Mistaken t t' d' ∨ Mistaken t' t d) ∧
    ∀ (web p : AppProcess) (deployment : Deployment) (guid : ProcessGuid) (time : Instant),
      p.type = t →
      (p.label = (web.replicate deployment guid time).label ↔
        t = .deployingWeb ∧ p.deployment = some deployment.guid) := by
  refine ⟨label_eq_iff h h', ?_⟩
  rintro web p deployment guid time rfl
  have hshadow : (web.replicate deployment guid time).label =
      deployingWeb.label (some deployment.guid) := rfl
  rw [AppProcess.label, hshadow, label_eq_iff h (.inr rfl)]
  constructor
  · rintro (⟨htype, hdeployment⟩ | ⟨-, -, ⟨⟩⟩ | ⟨⟨⟩, -⟩)
    exact ⟨htype, hdeployment htype⟩
  · rintro ⟨htype, hdeployment⟩
    exact .inl ⟨htype, fun _ => hdeployment⟩

theorem labels_identify_of_worker :
    let worker : ProcessType := .worker "web_deployment-"
    worker.InUse ∧ deployingWeb.InUse ∧
    (∀ d d', worker.label d ≠ deployingWeb.label d') ∧
    deployingWeb.label (some ⟨""⟩) ≠ deployingWeb.label none ∧
    let shadow : AppProcess := .initial ⟨"shop"⟩ ⟨"shop"⟩ .deployingWeb ⟨2, 0⟩
    shadow.type = .deployingWeb ∧ ∀ web deployment guid time,
      shadow.label ≠ (AppProcess.replicate web deployment guid time).label := by
  have hparse : parse " web_deployment-\n" = .ok (.worker "web_deployment-") := by rfl
  have hworker : (ProcessType.worker "web_deployment-").InUse := .inl ⟨_, hparse⟩
  have hshadow : deployingWeb.InUse := .inr rfl
  refine ⟨hworker, hshadow, ?_, ?_, rfl, ?_⟩
  · intro d d' h
    rcases (labels_identify hworker hshadow d d').1.mp h with ⟨⟨⟩, -⟩ | ⟨hname, -⟩ | ⟨⟨⟩, -⟩
    exact absurd hname (by decide)
  · intro h
    rcases (labels_identify hshadow hshadow _ _).1.mp h with ⟨-, hsame⟩ | ⟨⟨⟩, -⟩ | ⟨⟨⟩, -⟩
    cases hsame rfl
  · intro web deployment guid time h
    cases (((labels_identify hshadow hshadow none none).2 web _ deployment guid time rfl).mp h).2

/-- The name is not among the reserved ones, which all go on after it. -/
theorem plain_label_declared :
    parse "web-deployment" = .ok (.worker "web-deployment") ∧
    (ProcessType.worker "web-deployment").label none = deployingWeb.label none ∧
    ProcessType.worker "web-deployment" ≠ deployingWeb :=
  ⟨by rfl, rfl, nofun⟩

end Rollout
