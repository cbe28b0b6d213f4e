import Rollout.Graph.Document
import Rollout.Proofs.Json.Codec

/-! Action graphs read back from the documents that they are written as. -/

namespace Rollout

namespace Json

mutual

def IsNullFree : Json → Prop
  | .null => False
  | .array items => ItemsNullFree items
  | .object members => MembersNullFree members
  | _ => True

def ItemsNullFree : List Json → Prop
  | [] => True
  | item :: items => IsNullFree item ∧ ItemsNullFree items

def MembersNullFree : List (String × Json) → Prop
  | [] => True
  | (_, value) :: members => IsNullFree value ∧ MembersNullFree members

end

variable {α : Type} {write : α → Json} {read : Json → Option α}

attribute [simp] IsNullFree ItemsNullFree MembersNullFree

@[simp] lemma isNullFree_nat (n : Nat) : IsNullFree (nat n) := trivial

@[simp] lemma membersNullFree_append {members more : List (String × Json)} :
    MembersNullFree (members ++ more) ↔ MembersNullFree members ∧ MembersNullFree more := by
  induction members with
  | nil => simp
  | cons m members ih => simp [ih, and_assoc]

lemma membersNullFree_member? {name : String} (h : ∀ a, IsNullFree (write a)) (value : Option α) :
    MembersNullFree (member? name (value.map write)) := by
  cases value with
  | none => trivial
  | some a => exact ⟨h a, trivial⟩

lemma itemsNullFree_map (h : ∀ a, IsNullFree (write a)) (values : List α) :
    ItemsNullFree (values.map write) := by
  induction values with
  | nil => trivial
  | cons a values ih => exact ⟨h a, ih⟩

lemma IsNullFree.ne_null {j : Json} (h : IsNullFree j) : j ≠ .null := by
  rintro rfl
  exact h

/-- The value of a member, unless it is left out. -/
def get? : Json → String → Option Json
  | .object members, name => members.lookup name
  | _, _ => none

@[simp] lemma get?_object (members : List (String × Json)) (name : String) :
    get? (.object members) name = members.lookup name := rfl

@[simp] lemma lookup_member? (name key : String) (value : Option Json) :
    (member? key value).lookup name = if name = key then value else none := by
  cases value with
  | none => simp [member?]
  | some v =>
    by_cases h : name = key
    · simp [member?, h]
    · simp [member?, List.lookup_cons, h, beq_false_of_ne h]

/-- A way to write values that their reader understands and that has no need of null. -/
structure WireForm (write : α → Json) (read : Json → Option α) : Prop where
  reads_back : ∀ a, read (write a) = some a
  null_free : ∀ a, IsNullFree (write a)

namespace WireForm

lemma text : WireForm .string text? := ⟨fun _ => rfl, fun _ => trivial⟩

lemma uint64 : WireForm (fun n : UInt64 => nat n.toNat) uint64? :=
  ⟨uint64?_nat, fun n => isNullFree_nat n.toNat⟩

lemma list (h : WireForm write read) :
    WireForm (fun values => .array (values.map write)) (list? read) :=
  ⟨fun _ => list?_map fun a _ => h.reads_back a, itemsNullFree_map h.null_free⟩

lemma nullable (h : WireForm write read) (a : α) : nullable read (write a) = some (some a) :=
  nullable_of_read (h.null_free a).ne_null (h.reads_back a)

end WireForm

end Json

open Json

namespace EnvironmentVariable

lemma wireForm : WireForm toJson ofJson? where
  reads_back v := by
    rw [toJson, ofJson?, fields?_object (by decide) (by simp)]
    simp [text?]
  null_free v := by simp [toJson]

end EnvironmentVariable

namespace ResourceLimits

lemma wireForm : WireForm toJson ofJson? where
  reads_back l := by
    rcases l with ⟨_ | n⟩ <;> rw [toJson, ofJson?, fields?_object (by decide) (by simp [member?])] <;>
      simp [member?, WireForm.uint64.nullable]
  null_free l := membersNullFree_member? WireForm.uint64.null_free l.nofile

end ResourceLimits

namespace DownloadAction

lemma checksum_wireForm : WireForm ChecksumAlgorithm.toJson ChecksumAlgorithm.ofJson? :=
  ⟨ChecksumAlgorithm.ofJson?_toJson, fun _ => trivial⟩

lemma wireForm : WireForm toJson ofJson? where
  reads_back d := by
    rcases d with ⟨source, destination, cacheKey, user, _ | algorithm, _ | value⟩ <;>
      rw [toJson, ofJson?, fields?_object (by decide) (by simp [member?])] <;>
      simp [member?, text?, checksum_wireForm.nullable, WireForm.text.nullable]
  null_free d := by
    simp [toJson, membersNullFree_member? checksum_wireForm.null_free,
      membersNullFree_member? WireForm.text.null_free]

end DownloadAction

namespace RunAction

lemma wireForm : WireForm toJson ofJson? where
  reads_back r := by
    rw [toJson, ofJson?, fields?_object (by decide) (by simp)]
    simp [text?, WireForm.text.list.reads_back, ResourceLimits.wireForm.reads_back,
      EnvironmentVariable.wireForm.list.reads_back]
  null_free r := by
    simp [toJson, itemsNullFree_map WireForm.text.null_free, ResourceLimits.wireForm.null_free,
      itemsNullFree_map EnvironmentVariable.wireForm.null_free]

end RunAction

namespace Action

mutual

lemma ofJson?_toJson : ∀ a : Action, ofJson? a.toJson = some a
  | .serial actions => by
    simp [toJson, ofJson?, ofSerial?, ofMembers?, ofSteps?, ofItems?_toJsonSteps actions]
  | .download action => by simp [toJson, ofJson?, DownloadAction.wireForm.reads_back]
  | .run action => by simp [toJson, ofJson?, RunAction.wireForm.reads_back]

lemma ofItems?_toJsonSteps : ∀ actions : List Action, ofItems? (toJsonSteps actions) = some actions
  | [] => by simp [toJsonSteps, ofItems?]
  | action :: actions => by
    simp [toJsonSteps, ofItems?, ofJson?_toJson action, ofItems?_toJsonSteps actions]

end

mutual

lemma isNullFree_toJson : ∀ a : Action, IsNullFree a.toJson
  | .serial actions => by simp [toJson, itemsNullFree_toJsonSteps actions]
  | .download action => by simp [toJson, DownloadAction.wireForm.null_free]
  | .run action => by simp [toJson, RunAction.wireForm.null_free]

lemma itemsNullFree_toJsonSteps : ∀ actions : List Action, ItemsNullFree (toJsonSteps actions)
  | [] => trivial
  | action :: actions => by
    simp [toJsonSteps, isNullFree_toJson action, itemsNullFree_toJsonSteps actions]

end

lemma wireForm : WireForm toJson ofJson? := ⟨ofJson?_toJson, isNullFree_toJson⟩

end Action

namespace CachedDependency

lemma wireForm : WireForm toJson ofJson? where
  reads_back d := by
    rw [toJson, ofJson?, fields?_object (by decide) (by simp)]
    simp [text?]
  null_free d := by simp [toJson]

end CachedDependency

namespace ImageLayer

lemma digest_wireForm : WireForm (fun a => .string (DigestAlgorithm.text a)) DigestAlgorithm.ofJson? :=
  ⟨fun a => by cases a; rfl, fun _ => trivial⟩

lemma layer_reads_back (t : LayerType) : LayerType.ofJson? (.string t.text) = some t := by
  cases t <;> rfl

lemma media_reads_back (t : MediaType) : MediaType.ofJson? (.string t.text) = some t := by
  cases t
  rfl

lemma wireForm : WireForm toJson ofJson? where
  reads_back l := by
    rcases l with ⟨name, url, destination, layer, media, _ | algorithm, _ | value⟩ <;>
      rw [toJson, ofJson?, fields?_object (by decide) (by simp [member?])] <;>
      simp [member?, text?, layer_reads_back, media_reads_back, digest_wireForm.nullable,
        WireForm.text.nullable]
  null_free l := by
    simp [toJson, membersNullFree_member? digest_wireForm.null_free,
      membersNullFree_member? WireForm.text.null_free]

end ImageLayer

namespace ActionGraph

lemma wireForm : WireForm toJson ofJson? where
  reads_back g := by
    rcases g with ⟨action, _ | layers, _ | dependencies, environment⟩ <;>
      rw [toJson, ofJson?, fields?_object (by decide) (by simp [member?])] <;>
      simp [member?, Action.wireForm.reads_back, ImageLayer.wireForm.list.nullable,
        CachedDependency.wireForm.list.nullable, EnvironmentVariable.wireForm.list.reads_back]
  null_free g := by
    simp [toJson, Action.wireForm.null_free,
      membersNullFree_member? ImageLayer.wireForm.list.null_free,
      membersNullFree_member? CachedDependency.wireForm.list.null_free,
      itemsNullFree_map EnvironmentVariable.wireForm.null_free]

end ActionGraph

/--
A graph and every part of it read back from their documents. What is absent has no member there,
and a list that is there has one, empty or not.
-/
theorem graphs_read_back :
    WireForm ActionGraph.toJson ActionGraph.ofJson? ∧
    WireForm Action.toJson Action.ofJson? ∧
    WireForm DownloadAction.toJson DownloadAction.ofJson? ∧
    WireForm RunAction.toJson RunAction.ofJson? ∧
    WireForm ImageLayer.toJson ImageLayer.ofJson? ∧
    WireForm CachedDependency.toJson CachedDependency.ofJson? ∧
    WireForm EnvironmentVariable.toJson EnvironmentVariable.ofJson? ∧
    (∀ l : ResourceLimits, l.toJson.get? "nofile" = l.nofile.map fun n => nat n.toNat) ∧
    (∀ d : DownloadAction,
      d.toJson.get? "checksum_algorithm" = d.checksumAlgorithm.map ChecksumAlgorithm.toJson ∧
      d.toJson.get? "checksum_value" = d.checksumValue.map .string) ∧
    (∀ l : ImageLayer,
      l.toJson.get? "digest_algorithm" = l.digestAlgorithm.map (.string ·.text) ∧
      l.toJson.get? "digest_value" = l.digestValue.map .string) ∧
    ∀ g : ActionGraph,
      g.toJson.get? "image_layers" =
        g.imageLayers.map (fun layers => .array (layers.map ImageLayer.toJson)) ∧
      g.toJson.get? "cached_dependencies" =
        g.cachedDependencies.map
          (fun dependencies => .array (dependencies.map CachedDependency.toJson)) := by
  refine ⟨ActionGraph.wireForm, Action.wireForm, DownloadAction.wireForm, RunAction.wireForm,
    ImageLayer.wireForm, CachedDependency.wireForm, EnvironmentVariable.wireForm, ?_, ?_, ?_, ?_⟩
  · intro l
    simp [ResourceLimits.toJson]
  · intro d
    simp [DownloadAction.toJson, List.lookup_cons, List.lookup_append]
  · intro l
    simp [ImageLayer.toJson, List.lookup_cons, List.lookup_append]
  · intro g
    simp [ActionGraph.toJson, List.lookup_cons, List.lookup_append]

end Rollout
