import Mathlib.Algebra.Ring.Nat
import Rollout.Proofs.Deploy.Routes
import Rollout.Proofs.Run

/-! Routes of several processes carried over to one, of which the first to lead there stays. -/

namespace Rollout

structure CarryOver where
  draws : MappingDraws
  source : ProcessGuid

/-- The guids occur nowhere in the tables, and no two mappings get the same one. -/
structure CarryOver.Unused (calls : List CarryOver) (t : Tables) : Prop where
  new : ∀ c ∈ calls, ∀ n, c.draws.guid n ∉ t.routeMappings.map (·.guid)
  injective : ∀ c ∈ calls, Function.Injective c.draws.guid
  apart : calls.Pairwise fun c d => ∀ m n, c.draws.guid m ≠ d.draws.guid n

/-- Carry-overs to `target` one after another, with what each of them counts. -/
def RouteMapping.carryAll (target : ProcessGuid) (calls : List CarryOver) :
    Tx StoreError (List Nat) :=
  calls.mapM fun c => carryOver c.draws c.source target

namespace Tables

variable {t u v : Tables} {target source : ProcessGuid} {draws : MappingDraws}

/--
`t'` is `t` with the routes of `sources` led to `target` too, each as the first of these had it.
In all `counts` mappings are new.
-/
structure Gathered (target : ProcessGuid) (sources : List ProcessGuid) (counts : List Nat)
    (t t' : Tables) : Prop where
  tables : t' = { t with routeMappings := t'.routeMappings }
  kept : t.routeMappings <+: t'.routeMappings
  others : t'.routeMappings.filter (·.process ≠ target) =
    t.routeMappings.filter (·.process ≠ target)
  routes : ∀ route, t'.Leads route target ↔
    t.Leads route target ∨ ∃ source ∈ sources, t.Leads route source
  first : ∀ m ∈ t'.routeMappings, m.process = target → m ∈ t.routeMappings ∨
    ¬ t.Leads m.route target ∧ ∃ before source after, sources = before ++ source :: after ∧
      (∀ s ∈ before, ¬ t.Leads m.route s) ∧
      ∃ n ∈ t.mappingsOf source, n.route = m.route ∧ n.weight = m.weight ∧ n.app = m.app
  single : ((t'.mappingsOf target).map (·.route)).Nodup
  counted : (t'.mappingsOf target).length = (t.mappingsOf target).length + counts.sum

namespace Gathered

variable {sources later : List ProcessGuid} {counts more : List Nat} {route : RouteGuid}

lemma refl (h : t.Intact) : Gathered target [] [] t t where
  tables := rfl
  kept := List.prefix_refl _
  others := rfl
  routes := by simp
  first := fun m hm _ => .inl hm
  single := mappingsOf_routes h
  counted := rfl

lemma mappingsOf_other (h : Gathered target sources counts t u) (hs : source ≠ target) :
    u.mappingsOf source = t.mappingsOf source := by
  have himp : ∀ m : RouteMapping, decide (m.process = source) = true →
      decide (m.process ≠ target) = true :=
    fun m hm => decide_eq_true (of_decide_eq_true hm ▸ hs)
  rw [mappingsOf, mappingsOf, ← filter_filter_of_imp fun m _ => himp m, h.others,
    filter_filter_of_imp fun m _ => himp m]

lemma leads_kept (h : Gathered target sources counts t u) (hr : t.Leads route source) :
    u.Leads route source :=
  List.map_subset _ h.kept.subset hr

lemma leads_other (h : Gathered target sources counts t u) (hs : source ≠ target)
    (hr : u.Leads route source) : t.Leads route source := by
  rw [leads_iff] at hr ⊢
  rwa [h.mappingsOf_other hs] at hr

lemma trans (h : Gathered target sources counts t u) (h' : Gathered target later more u v) :
    Gathered target (sources ++ later) (counts ++ more) t v where
  tables := by rw [h'.tables, h.tables]
  kept := h.kept.trans h'.kept
  others := h'.others.trans h.others
  routes := by
    intro route
    have hleft : u.Leads route target →
        t.Leads route target ∨ ∃ s ∈ sources ++ later, t.Leads route s := by
      intro hr
      refine ((h.routes route).mp hr).imp_right ?_
      rintro ⟨s, hs, hr⟩
      exact ⟨s, List.mem_append_left _ hs, hr⟩
    rw [h'.routes]
    constructor
    · rintro (hr | ⟨s, hs, hr⟩)
      · exact hleft hr
      · by_cases he : s = target
        · exact hleft (he ▸ hr)
        · exact .inr ⟨s, List.mem_append_right _ hs, h.leads_other he hr⟩
    · rintro (hr | ⟨s, hs, hr⟩)
      · exact .inl (h.leads_kept hr)
      · rcases List.mem_append.mp hs with hs | hs
        · exact .inl ((h.routes route).mpr (.inr ⟨s, hs, hr⟩))
        · exact .inr ⟨s, hs, h.leads_kept hr⟩
  first := by
    intro m hm htarget
    rcases h'.first m hm htarget with hm | ⟨hnew, before, source, after, rfl, hbefore, n, hn, hsame⟩
    · rcases h.first m hm htarget with hm | ⟨hnew, before, source, after, rfl, hfirst⟩
      · exact .inl hm
      · exact .inr ⟨hnew, before, source, after ++ later, by simp, hfirst⟩
    · -- The target itself has nothing new to give, and other sources are as they were.
      have hlead : u.Leads m.route source := leads_iff.mpr ⟨n, hn, hsame.1⟩
      have hs : source ≠ target := fun he => hnew (he ▸ hlead)
      rw [h.mappingsOf_other hs] at hn
      refine .inr ⟨fun hr => hnew (h.leads_kept hr), sources ++ before, source, after, by simp, ?_,
        n, hn, hsame⟩
      intro s hs hr
      rcases List.mem_append.mp hs with hs | hs
      · exact hnew ((h.routes m.route).mpr (.inr ⟨s, hs, hr⟩))
      · exact hbefore s hs (h.leads_kept hr)
  single := h'.single
  counted := by rw [h'.counted, h.counted, List.sum_append, Nat.add_assoc]

end Gathered

lemma length_mappingsOf (t : Tables) (process : ProcessGuid) :
    (t.mappingsOf process).length = (t.routeMappings.filter (·.process = process)).length :=
  (sortByCreation_perm _).length_eq

lemma gathered_joined (hu : (RouteMapping.joined draws source target t).Intact) :
    Gathered target [source] [(t.missing source target).length] t
      (RouteMapping.joined draws source target t) where
  tables := rfl
  kept := List.prefix_append _ _
  others := by
    have hnone : (RouteMapping.planted draws target 0 (t.missing source target)).filter
        (·.process ≠ target) = [] :=
      List.filter_eq_nil_iff.mpr fun m hm he =>
        of_decide_eq_true he (RouteMapping.mem_planted hm).1
    rw [RouteMapping.joined, List.filter_append, hnone, List.append_nil]
  routes := by
    intro route
    have hnew : (route, target) ∈ (t.missing source target).map (fun m => (m.route, target)) ↔
        t.Leads route source ∧ ¬ t.Leads route target := by
      have hsource : t.Leads route source ↔ ∃ m ∈ t.mappingsOf source, m.route = route := leads_iff
      simp only [List.mem_map, mem_missing, hsource, Prod.mk.injEq, and_true]
      constructor
      · rintro ⟨m, ⟨hm, hnot⟩, rfl⟩
        exact ⟨⟨m, hm, rfl⟩, hnot⟩
      · rintro ⟨⟨m, hm, rfl⟩, hnot⟩
        exact ⟨m, ⟨hm, hnot⟩, rfl⟩
    have hjoined : (RouteMapping.joined draws source target t).Leads route target ↔
        t.Leads route target ∨ t.Leads route source ∧ ¬ t.Leads route target := by
      rw [Leads, RouteMapping.joined, List.map_append, List.mem_append,
        RouteMapping.planted_routes, hnew, ← Leads]
    rw [hjoined]
    by_cases hr : t.Leads route target <;> simp [hr]
  first := by
    intro m hm _
    rcases List.mem_append.mp hm with hm | hm
    · exact .inl hm
    · obtain ⟨n, hn, i, rfl⟩ := RouteMapping.exists_of_mem_planted hm
      obtain ⟨hn, hnew⟩ := mem_missing.mp hn
      exact .inr ⟨hnew, [], source, [], rfl, by simp, n, hn, rfl, rfl, rfl⟩
  single := mappingsOf_routes hu
  counted := by
    have hall : (RouteMapping.planted draws target 0 (t.missing source target)).filter
        (·.process = target) = RouteMapping.planted draws target 0 (t.missing source target) :=
      List.filter_eq_self.mpr fun m hm => decide_eq_true (RouteMapping.mem_planted hm).1
    rw [length_mappingsOf, length_mappingsOf, RouteMapping.joined, List.filter_append, hall]
    simp [RouteMapping.planted]

end Tables

namespace CarryOver.Unused

variable {t : Tables} {c : CarryOver} {calls part : List CarryOver} {target : ProcessGuid}

lemma sublist (h : Unused calls t) (hs : part.Sublist calls) : Unused part t where
  new := fun c hc => h.new c (hs.subset hc)
  injective := fun c hc => h.injective c (hs.subset hc)
  apart := h.apart.sublist hs

lemma joined (h : Unused (c :: calls) t) :
    Unused calls (RouteMapping.joined c.draws c.source target t) where
  new := by
    intro d hd n hm
    rw [RouteMapping.joined, List.map_append] at hm
    rcases List.mem_append.mp hm with hm | hm
    · exact h.new d (List.mem_cons_of_mem c hd) n hm
    · obtain ⟨m, hm, he⟩ := List.mem_map.mp hm
      obtain ⟨i, hi⟩ := (RouteMapping.mem_planted hm).2
      exact (List.pairwise_cons.mp h.apart).1 d hd i n (hi.symm.trans he)
  injective := fun d hd => h.injective d (List.mem_cons_of_mem c hd)
  apart := (List.pairwise_cons.mp h.apart).2

end CarryOver.Unused

namespace RouteMapping

variable {t t' : Tables} {c : CarryOver} {calls : List CarryOver} {target source : ProcessGuid}
variable {draws : MappingDraws} {counts : List Nat}

lemma carryAll_cons :
    carryAll target (c :: calls) = do
      let n ← carryOver c.draws c.source target
      let counts ← carryAll target calls
      return n :: counts := List.mapM_cons

lemma joined_intact (h : t.Intact) (hinj : Function.Injective draws.guid)
    (hguid : ∀ i, draws.guid i ∉ t.routeMappings.map (·.guid)) :
    (joined draws source target t).Intact := by
  have hkeep : ((carryOver draws source target) t).2.Intact :=
    carryOver_keeps Tables.lasting_intact t h
  rwa [carryOver_total h hinj hguid] at hkeep

lemma carryAll_total (h : t.Intact) (hcalls : CarryOver.Unused calls t) :
    ∃ counts t', carryAll target calls t = (.ok counts, t') ∧ t'.Intact ∧
      t.Gathered target (calls.map (·.source)) counts t' := by
  induction calls generalizing t with
  | nil => exact ⟨[], t, rfl, h, .refl h⟩
  | cons c calls ih =>
    have hinj : Function.Injective c.draws.guid := hcalls.injective c List.mem_cons_self
    have hnew : ∀ i, c.draws.guid i ∉ t.routeMappings.map (·.guid) :=
      hcalls.new c List.mem_cons_self
    have hu : (joined c.draws c.source target t).Intact := joined_intact h hinj hnew
    obtain ⟨counts, t', hrest, ht', hgathered⟩ := ih hu hcalls.joined
    refine ⟨(t.missing c.source target).length :: counts, t', ?_, ht',
      (Tables.gathered_joined hu).trans hgathered⟩
    rw [carryAll_cons, Tx.bind_of_ok (carryOver_total h hinj hnew), Tx.bind_of_ok hrest]
    rfl

lemma carryAll_take (h : carryAll target calls t = (.ok counts, t')) (k : Nat) :
    ∃ u, carryAll target (calls.take k) t = (.ok (counts.take k), u) := by
  induction calls generalizing t counts k with
  | nil =>
    have hnone : counts = [] := (Tx.pure_ok.mp h).1.symm
    exact ⟨t, by rw [hnone, List.take_nil, List.take_nil]; rfl⟩
  | cons c calls ih =>
    cases k with
    | zero => exact ⟨t, rfl⟩
    | succ k =>
      rw [carryAll_cons] at h
      obtain ⟨n, u, hfirst, h⟩ := Tx.bind_ok.mp h
      obtain ⟨rest, v, hrest, h⟩ := Tx.bind_ok.mp h
      obtain ⟨rfl, rfl⟩ := Tx.pure_ok.mp h
      obtain ⟨w, hw⟩ := ih hrest k
      refine ⟨w, ?_⟩
      rw [List.take_succ_cons, List.take_succ_cons, carryAll_cons, Tx.bind_of_ok hfirst,
        Tx.bind_of_ok hw]
      rfl

lemma carryOver_idle (h : ∀ route, t.Leads route source → t.Leads route target) :
    carryOver draws source target t = (.ok 0, t) := by
  have hnone : t.missing source target = [] := by
    refine List.eq_nil_iff_forall_not_mem.mpr fun m hm => ?_
    obtain ⟨hm, hnot⟩ := Tables.mem_missing.mp hm
    exact hnot (h _ (Tables.leads_iff.mpr ⟨m, hm, rfl⟩))
  simp only [carryOver, Tx.bind_ok, Tx.ask_ok, Tx.pure_ok]
  refine ⟨_, t, ⟨rfl, rfl⟩, _, t, ⟨rfl, rfl⟩, (), t, ?_, ?_, rfl⟩
  · exact congrArg (fun ms => insertOnto draws target 0 ms t) hnone
  · exact congrArg List.length hnone

lemma carryAll_idle
    (h : ∀ c ∈ calls, ∀ route, t.Leads route c.source → t.Leads route target) :
    carryAll target calls t = (.ok (calls.map fun _ => 0), t) := by
  induction calls with
  | nil => rfl
  | cons c calls ih =>
    rw [carryAll_cons, Tx.bind_of_ok (carryOver_idle (h c List.mem_cons_self)),
      Tx.bind_of_ok (ih fun d hd => h d (List.mem_cons_of_mem c hd))]
    rfl

end RouteMapping

/--
Carry-overs to a process succeed, whatever they start from. The process keeps its mappings and gets
those of its new routes from the first source on each; every call counts what it adds, and the same
sources have nothing to add after that.
-/
theorem routes_united {t : Tables} (h : t.Built) (target : ProcessGuid) (calls : List CarryOver)
    (hcalls : CarryOver.Unused calls t) :
    ∃ counts t', RouteMapping.carryAll target calls t = (.ok counts, t') ∧
      t.Gathered target (calls.map (·.source)) counts t' ∧
      (∀ k, ∃ u, RouteMapping.carryAll target (calls.take k) t = (.ok (counts.take k), u) ∧
        t.Gathered target ((calls.take k).map (·.source)) (counts.take k) u) ∧
      ∀ again : List CarryOver, (∀ c ∈ again, c.source ∈ calls.map (·.source)) →
        RouteMapping.carryAll target again t' = (.ok (again.map fun _ => 0), t') := by
  obtain ⟨counts, t', hrun, -, hgathered⟩ := RouteMapping.carryAll_total h.intact hcalls
  refine ⟨counts, t', hrun, hgathered, fun k => ?_, fun again hagain => ?_⟩
  · obtain ⟨u, hu⟩ := RouteMapping.carryAll_take hrun k
    obtain ⟨taken, v, hv, -, hfirst⟩ :=
      RouteMapping.carryAll_total h.intact (hcalls.sublist (List.take_sublist k calls))
    rw [hu] at hv
    obtain ⟨hcounts, rfl⟩ := Prod.mk.inj hv
    obtain rfl := Except.ok.inj hcounts
    exact ⟨u, hu, hfirst⟩
  · refine RouteMapping.carryAll_idle fun c hc route hr => ?_
    by_cases he : c.source = target
    · exact he ▸ hr
    · exact (hgathered.routes route).mpr
        (.inr ⟨c.source, hagain c hc, hgathered.leads_other he hr⟩)

namespace Sample

/-- Of the routes of the shop and its twin one is common to both, with two weights. -/
def forked : List Operation :=
  opening "shop" ++ [
    .insertProcess (.initial ⟨"twin"⟩ ⟨"shop"⟩ .web ⟨2, 0⟩),
    .insertProcess (.initial ⟨"shade"⟩ ⟨"shop"⟩ .deployingWeb ⟨3, 0⟩),
    .insertMapping ⟨⟨"shade-else"⟩, ⟨"shop"⟩, ⟨"else"⟩, ⟨"shade"⟩, some 1, ⟨4, 0⟩⟩,
    .insertMapping ⟨⟨"shop-side"⟩, ⟨"shop"⟩, ⟨"side"⟩, ⟨"shop"⟩, some 3, ⟨5, 0⟩⟩,
    .insertMapping ⟨⟨"twin-side"⟩, ⟨"shop"⟩, ⟨"side"⟩, ⟨"twin"⟩, some 5, ⟨6, 0⟩⟩]

def forks : List CarryOver := [
  ⟨(draws "one" 10).mappings, ⟨"twin"⟩⟩,
  ⟨(draws "two" 11).mappings, ⟨"shade"⟩⟩,
  ⟨(draws "three" 12).mappings, ⟨"shop"⟩⟩,
  ⟨(draws "four" 13).mappings, ⟨"twin"⟩⟩]

lemma forks_unused : CarryOver.Unused forks (.after forked) where
  new := by
    have hguids : (Tables.after forked).routeMappings.map (·.guid) =
        [⟨"shop"⟩, ⟨"shade-else"⟩, ⟨"shop-side"⟩, ⟨"twin-side"⟩] := by decide +kernel
    rw [hguids]
    simp only [forks, List.forall_mem_cons]
    exact ⟨draws_new (by decide), draws_new (by decide), draws_new (by decide),
      draws_new (by decide), by simp⟩
  injective := by
    simp only [forks, List.forall_mem_cons]
    exact ⟨draws_injective, draws_injective, draws_injective, draws_injective, by simp⟩
  apart := by
    simp only [forks, List.pairwise_cons, List.forall_mem_cons]
    exact ⟨⟨draws_apart (by decide) (by decide), draws_apart (by decide) (by decide),
        draws_apart (by decide) (by decide), by simp⟩,
      ⟨draws_apart (by decide) (by decide), draws_apart (by decide) (by decide), by simp⟩,
      ⟨draws_apart (by decide) (by decide), by simp⟩, ⟨by simp, .nil⟩⟩

end Sample

theorem routes_united_of_shop :
    (Tables.after Sample.forked).Built ∧ CarryOver.Unused Sample.forks (.after Sample.forked) ∧
    ∃ t', RouteMapping.carryAll ⟨"shade"⟩ Sample.forks (.after Sample.forked) =
        (.ok [1, 0, 1, 0], t') ∧
      (t'.mappingsOf ⟨"shade"⟩).map (fun m => (m.route.text, m.weight)) =
        [("else", some 1), ("side", some 5), ("shop", none)] ∧
      (Tables.after Sample.forked).Gathered ⟨"shade"⟩ (Sample.forks.map (·.source))
        [1, 0, 1, 0] t' ∧
      RouteMapping.carryAll ⟨"shade"⟩ Sample.forks t' = (.ok [0, 0, 0, 0], t') := by
  have hbuilt : (Tables.after Sample.forked).Built := Tables.built_after _
  obtain ⟨counts, t', hrun, hgathered, -, hagain⟩ :=
    routes_united hbuilt ⟨"shade"⟩ Sample.forks Sample.forks_unused
  have hcounts : (RouteMapping.carryAll ⟨"shade"⟩ Sample.forks
      (.after Sample.forked)).1.toOption = some [1, 0, 1, 0] := by decide +kernel
  have hlisting : ((RouteMapping.carryAll ⟨"shade"⟩ Sample.forks
      (.after Sample.forked)).2.mappingsOf ⟨"shade"⟩).map (fun m => (m.route.text, m.weight)) =
        [("else", some 1), ("side", some 5), ("shop", none)] := by decide +kernel
  rw [hrun] at hcounts hlisting
  obtain rfl : counts = [1, 0, 1, 0] := Option.some.inj hcounts
  exact ⟨hbuilt, Sample.forks_unused, t', hrun, hlisting, hgathered,
    hagain Sample.forks fun c hc => List.mem_map_of_mem hc⟩

end Rollout
