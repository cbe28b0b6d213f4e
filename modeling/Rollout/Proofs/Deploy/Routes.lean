import Rollout.Deploy.Routes
import Rollout.Proofs.Store.Integrity

/-! Which mappings a carry-over of routes adds. -/

namespace Rollout

variable {draws : MappingDraws} {source target : ProcessGuid} {t t' : Tables}

namespace Tables

def Leads (t : Tables) (route : RouteGuid) (process : ProcessGuid) : Prop :=
  (route, process) ∈ t.routeMappings.map fun m => (m.route, m.process)

/-- The mappings of `source` whose routes do not lead to `target` yet. -/
def missing (t : Tables) (source target : ProcessGuid) : List RouteMapping :=
  RouteMapping.missing (t.mappingsOf target) (t.mappingsOf source)

lemma leads_iff {route : RouteGuid} {process : ProcessGuid} :
    t.Leads route process ↔ ∃ m ∈ t.mappingsOf process, m.route = route := by
  simp [Leads, mappingsOf, and_assoc, and_comm]

lemma mem_missing {m : RouteMapping} :
    m ∈ t.missing source target ↔ m ∈ t.mappingsOf source ∧ ¬ t.Leads m.route target := by
  simp [missing, RouteMapping.missing, leads_iff]

lemma mappingsOf_routes (h : t.Intact) : ((t.mappingsOf source).map (·.route)).Nodup := by
  have hsub : ((t.routeMappings.filter (·.process = source)).map
      fun m => (m.route, m.process)).Nodup := nodup_filter_key h.routes
  have hroutes : ((t.routeMappings.filter (·.process = source)).map (·.route)).Nodup := by
    apply List.Nodup.of_map (·, source)
    rw [List.map_map]
    convert hsub using 1
    apply List.map_congr_left
    intro m hm
    have hp : m.process = source := by simpa using (List.mem_filter.mp hm).2
    simp [hp]
  exact nodup_sortByCreation hroutes

lemma missing_routes (h : t.Intact) : ((t.missing source target).map (·.route)).Nodup :=
  (mappingsOf_routes h).sublist (List.filter_sublist.map _)

end Tables

namespace RouteMapping

/-- The mappings onto `target`, of which `n` others were drawn before. -/
def planted (draws : MappingDraws) (target : ProcessGuid) (n : Nat) (mappings : List RouteMapping) :
    List RouteMapping :=
  (mappings.zipIdx n).map fun (m, i) => m.onto target (draws.guid i) (draws.time i)

/-- The tables once the routes of `source` lead to `target` as well. -/
def joined (draws : MappingDraws) (source target : ProcessGuid) (t : Tables) : Tables :=
  { t with
    routeMappings := t.routeMappings ++ planted draws target 0 (t.missing source target) }

lemma planted_cons {n : Nat} {m : RouteMapping} {mappings : List RouteMapping} :
    planted draws target n (m :: mappings) =
      m.onto target (draws.guid n) (draws.time n) :: planted draws target (n + 1) mappings := rfl

lemma exists_of_mem_planted {n : Nat} {m : RouteMapping} {mappings : List RouteMapping}
    (h : m ∈ planted draws target n mappings) :
    ∃ s ∈ mappings, ∃ i, m = s.onto target (draws.guid i) (draws.time i) := by
  obtain ⟨⟨s, i⟩, hs, rfl⟩ := List.mem_map.mp h
  exact ⟨s, List.fst_mem_of_mem_zipIdx hs, i, rfl⟩

lemma mem_planted {n : Nat} {m : RouteMapping} {mappings : List RouteMapping}
    (h : m ∈ planted draws target n mappings) :
    m.process = target ∧ ∃ i, m.guid = draws.guid i := by
  obtain ⟨s, -, i, rfl⟩ := exists_of_mem_planted h
  exact ⟨rfl, i, rfl⟩

lemma planted_routes {n : Nat} {mappings : List RouteMapping} :
    (planted draws target n mappings).map (fun m => (m.route, m.process)) =
      mappings.map fun m => (m.route, target) := by
  induction mappings generalizing n with
  | nil => rfl
  | cons m mappings ih => rw [planted_cons, List.map_cons, ih, List.map_cons, onto]

lemma insertOnto_ok {n : Nat} {mappings : List RouteMapping} {a : Unit}
    (h : insertOnto draws target n mappings t = (.ok a, t')) :
    t' = { t with routeMappings := t.routeMappings ++ planted draws target n mappings } := by
  induction mappings generalizing n t with
  | nil =>
    rw [insertOnto, Tx.pure_ok] at h
    simp [← h.2, planted]
  | cons m mappings ih =>
    simp only [insertOnto, Tx.bind_ok, Tx.change_ok, Tables.insertMapping_ok] at h
    obtain ⟨_, u, ⟨-, -, rfl⟩, h⟩ := h
    rw [ih h, planted_cons]
    simp

/-- Guids that occur nowhere, and routes that do not lead to `target`, leave no room for failure. -/
lemma insertOnto_total {n : Nat} {mappings : List RouteMapping}
    (hinj : Function.Injective draws.guid)
    (hguid : ∀ i, n ≤ i → draws.guid i ∉ t.routeMappings.map (·.guid))
    (hroute : ∀ m ∈ mappings, (m.route, target) ∉ t.routeMappings.map fun m => (m.route, m.process))
    (hdistinct : (mappings.map (·.route)).Nodup) :
    ∃ u, insertOnto draws target n mappings t = (.ok (), u) := by
  induction mappings generalizing n t with
  | nil => exact ⟨t, rfl⟩
  | cons m mappings ih =>
    rw [List.map_cons, List.nodup_cons] at hdistinct
    let v := { t with
      routeMappings := t.routeMappings ++ [m.onto target (draws.guid n) (draws.time n)] }
    have hv : t.insertMapping (m.onto target (draws.guid n) (draws.time n)) = .ok v :=
      Tables.insertMapping_ok.mpr ⟨hguid n (Nat.le_refl n), hroute m (by simp), rfl⟩
    have hguid' : ∀ i, n + 1 ≤ i → draws.guid i ∉ v.routeMappings.map (·.guid) := by
      intro i hi
      have hne : i ≠ n := by omega
      simpa [v, onto, hinj.eq_iff, hne, eq_comm] using hguid i (by omega)
    have hroute' : ∀ s ∈ mappings,
        (s.route, target) ∉ v.routeMappings.map fun m => (m.route, m.process) := by
      intro s hs
      have hne : m.route ≠ s.route := fun he => hdistinct.1 (he ▸ List.mem_map_of_mem hs)
      simpa [v, onto, hne.symm] using hroute s (by simp [hs])
    obtain ⟨u, hu⟩ := ih hguid' hroute' hdistinct.2
    exact ⟨u, Tx.bind_ok.mpr ⟨(), v, Tx.change_ok.mpr hv, hu⟩⟩

variable {I : Tables → Prop}

lemma insertOnto_keeps (hI : Tables.Lasting (fun _ => True) I) {n : Nat}
    {mappings : List RouteMapping} : (insertOnto draws target n mappings).Keeps I := by
  induction mappings generalizing n with
  | nil => exact Tx.keeps_pure _
  | cons m mappings ih =>
    exact Tx.keeps_bind (Tables.keeps_effect hI (.insertMapping _)) fun _ => ih

lemma carryOver_keeps (hI : Tables.Lasting (fun _ => True) I) :
    (carryOver draws source target).Keeps I := by
  refine Tx.keeps_bind (Tx.keeps_ask _) fun existing => ?_
  refine Tx.keeps_bind (Tx.keeps_ask _) fun mappings => ?_
  exact Tx.keeps_bind (insertOnto_keeps hI) fun _ => Tx.keeps_pure _

lemma carryOver_ok {n : Nat} (h : carryOver draws source target t = (.ok n, t')) :
    n = (t.missing source target).length ∧ t' = joined draws source target t := by
  simp only [carryOver, Tx.bind_ok, Tx.ask_ok, Tx.pure_ok] at h
  obtain ⟨_, _, ⟨rfl, rfl⟩, _, _, ⟨rfl, rfl⟩, _, u, hu, rfl, rfl⟩ := h
  exact ⟨rfl, insertOnto_ok hu⟩

/-- Guids that occur nowhere leave no room for failure: what is missing is not there yet. -/
lemma carryOver_total (h : t.Intact) (hinj : Function.Injective draws.guid)
    (hguid : ∀ i, draws.guid i ∉ t.routeMappings.map (·.guid)) :
    carryOver draws source target t =
      (.ok (t.missing source target).length, joined draws source target t) := by
  have hroute : ∀ m ∈ t.missing source target,
      (m.route, target) ∉ t.routeMappings.map fun m => (m.route, m.process) :=
    fun m hm => (Tables.mem_missing.mp hm).2
  obtain ⟨u, hu⟩ := insertOnto_total hinj (fun i (_ : 0 ≤ i) => hguid i) hroute
    (Tables.missing_routes h)
  simp only [carryOver, Tx.bind_ok, Tx.ask_ok, Tx.pure_ok]
  exact ⟨_, t, ⟨rfl, rfl⟩, _, t, ⟨rfl, rfl⟩, (), u, hu, rfl, insertOnto_ok hu⟩

end RouteMapping

end Rollout
