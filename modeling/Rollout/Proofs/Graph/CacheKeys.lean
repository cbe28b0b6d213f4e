import Rollout.Proofs.Graph.Workload

/-!
Workloads share their lifecycle bundles by names in which dashes stand for slashes, so two stacks
that are written differently may share a name.
-/

namespace Rollout

def dashed (text : String) : String := text.map fun c => if c == '/' then '-' else c

lemma toList_dashed (text : String) :
    (dashed text).toList = text.toList.map fun c => if c == '/' then '-' else c :=
  String.toList_map

lemma dashed_append (a b : String) : dashed (a ++ b) = dashed a ++ dashed b := by
  simp only [← String.toList_inj, toList_dashed, String.toList_append, List.map_append]

lemma dashed_eq_self {text : String} (h : '/' ∉ text.toList) : dashed text = text := by
  rw [← String.toList_inj, toList_dashed]
  refine (List.map_congr_left fun c hc => if_neg ?_).trans (List.map_id _)
  rw [beq_iff_eq]
  rintro rfl
  exact h hc

lemma map_dashed_eq_self {stack? : Option String}
    (h : ∀ stack, stack? = some stack → '/' ∉ stack.toList) : stack?.map dashed = stack? := by
  cases stack? with
  | none => rfl
  | some stack => exact congrArg some (dashed_eq_self (h stack rfl))

lemma dashed_buildpack (stack : String) :
    dashed (LifecycleType.buildpack.bundleKey (some stack)) = "buildpack-" ++ dashed stack := by
  have hkey : dashed (LifecycleType.buildpack.text ++ "/") = "buildpack-" := by
    rw [← String.toList_inj, toList_dashed]
    rfl
  rw [LifecycleType.bundleKey, dashed_append, hkey]

lemma buildpack_ne_docker (stack : String) :
    dashed (LifecycleType.buildpack.bundleKey (some stack)) ≠
      dashed (LifecycleType.docker.bundleKey none) := by
  have hdocker : (dashed (LifecycleType.docker.bundleKey none)).toList = "docker".toList := by
    rw [toList_dashed]
    rfl
  rw [dashed_buildpack, ne_eq, ← String.toList_inj, String.toList_append, hdocker]
  rintro ⟨⟩

namespace Workload

variable {w w' : Workload} {s : SchedulerSettings} {g : ActionGraph}

/-- Tasks share no names with containers, and two tasks share theirs if their stacks are alike. -/
lemma cacheKey_eq_iff : w.cacheKey = w'.cacheKey ↔
    w.lifecycle = w'.lifecycle ∧ w.stack?.map dashed = w'.stack?.map dashed := by
  have hend : w.cacheKey = w'.cacheKey ↔ dashed w.bundleKey = dashed w'.bundleKey := by
    change dashed w.bundleKey ++ "-lifecycle" = dashed w'.bundleKey ++ "-lifecycle" ↔ _
    simp only [← String.toList_inj, String.toList_append, List.append_left_inj]
  rw [hend]
  cases w with
  | task t environment =>
    cases w' with
    | task t' environment' =>
      simp only [bundleKey, lifecycle, stack?, dashed_buildpack, ← String.toList_inj,
        String.toList_append, List.append_right_inj, Option.map_some, Option.some.injEq, true_and]
    | container spec' => exact ⟨fun h => absurd h (buildpack_ne_docker _), nofun⟩
  | container spec =>
    cases w' with
    | task t' environment' => exact ⟨fun h => absurd h.symm (buildpack_ne_docker _), nofun⟩
    | container spec' => exact ⟨fun _ => ⟨rfl, rfl⟩, fun _ => rfl⟩

lemma exists_on_stack {stack uri : String}
    (h : s.lifecycleBundles.resolve .buildpack (some stack) = .ok uri) :
    ∃ w g, build s w = .ok g ∧ g.bundles = [(w.cacheKey, uri)] ∧ w.lifecycle = .buildpack ∧
      w.stack? = some stack :=
  ⟨task ⟨"", "", "", stack, none, none⟩ [], _,
    build_ok.mpr ⟨_, uri, [], rfl, mapError_ok.mpr h, rfl, rfl⟩, Cargo.graph_bundles, rfl, rfl⟩

lemma of_mem_bundles {b : String × String} (h : w.build s = .ok g) (hb : b ∈ g.bundles) :
    b.1 = w.cacheKey ∧ s.lifecycleBundles.resolve w.lifecycle w.stack? = .ok b.2 := by
  obtain ⟨uri, hresolve, hbundles⟩ := bundles_of_build h
  rw [hbundles, List.mem_singleton] at hb
  subst hb
  exact ⟨rfl, hresolve⟩

lemma located_alike {uri uri' : String}
    (halike : ∀ stack stack' uri uri', dashed stack = dashed stack' →
      s.lifecycleBundles.resolve .buildpack (some stack) = .ok uri →
      s.lifecycleBundles.resolve .buildpack (some stack') = .ok uri' → uri = uri')
    (hnames : w.cacheKey = w'.cacheKey)
    (huri : s.lifecycleBundles.resolve w.lifecycle w.stack? = .ok uri)
    (huri' : s.lifecycleBundles.resolve w'.lifecycle w'.stack? = .ok uri') : uri = uri' := by
  obtain ⟨hlifecycle, hstacks⟩ := cacheKey_eq_iff.mp hnames
  cases w with
  | task t environment =>
    cases w' with
    | task t' environment' => exact halike _ _ _ _ (Option.some.inj hstacks) huri huri'
    | container spec' => cases hlifecycle
  | container spec =>
    cases w' with
    | task t' environment' => cases hlifecycle
    | container spec' => exact Except.ok.inj (huri.symm.trans huri')

lemma alike_of_plain
    (hplain : ∀ stack, w.stack? = some stack ∨ w'.stack? = some stack → '/' ∉ stack.toList)
    (h : w.stack?.map dashed = w'.stack?.map dashed) : w.stack? = w'.stack? := by
  rw [← map_dashed_eq_self fun stack hs => hplain stack (.inl hs), h,
    map_dashed_eq_self fun stack hs => hplain stack (.inr hs)]

end Workload

/--
Two workloads share a name exactly if they ask for alike stacks, so stacks without slashes have
names of their own. No name serves two bundles exactly if alike stacks have theirs in one place.
-/
theorem shared_names_identify (s : SchedulerSettings) :
    (∀ (w w' : Workload) (g g' : ActionGraph), w.build s = .ok g → w'.build s = .ok g' →
      ∀ b ∈ g.bundles, ∀ b' ∈ g'.bundles,
        (b.1 = b'.1 ↔ w.lifecycle = w'.lifecycle ∧ w.stack?.map dashed = w'.stack?.map dashed) ∧
        ((∀ stack, w.stack? = some stack ∨ w'.stack? = some stack → '/' ∉ stack.toList) →
          b.1 = b'.1 → w.bundleKey = w'.bundleKey ∧ b.2 = b'.2)) ∧
    ((∀ (w w' : Workload) (g g' : ActionGraph), w.build s = .ok g → w'.build s = .ok g' →
        ∀ b ∈ g.bundles, ∀ b' ∈ g'.bundles, b.1 = b'.1 → b.2 = b'.2) ↔
      ∀ stack stack' uri uri', dashed stack = dashed stack' →
        s.lifecycleBundles.resolve .buildpack (some stack) = .ok uri →
        s.lifecycleBundles.resolve .buildpack (some stack') = .ok uri' → uri = uri') := by
  constructor
  · intro w w' g g' hg hg' b hb b' hb'
    obtain ⟨hname, huri⟩ := Workload.of_mem_bundles hg hb
    obtain ⟨hname', huri'⟩ := Workload.of_mem_bundles hg' hb'
    rw [hname, hname', Workload.cacheKey_eq_iff]
    refine ⟨Iff.rfl, fun hplain ⟨hlifecycle, halike⟩ => ?_⟩
    have hstack := Workload.alike_of_plain hplain halike
    rw [hlifecycle, hstack, huri'] at huri
    exact ⟨by rw [Workload.bundleKey, hlifecycle, hstack]; rfl, (Except.ok.inj huri).symm⟩
  · constructor
    · intro hsafe stack stack' uri uri' halike huri huri'
      -- A task on each of the two stacks builds, and both fetch under one name.
      obtain ⟨w, g, hg, hbundles, hlifecycle, hstack⟩ := Workload.exists_on_stack huri
      obtain ⟨w', g', hg', hbundles', hlifecycle', hstack'⟩ := Workload.exists_on_stack huri'
      have hnames : w.cacheKey = w'.cacheKey := by
        rw [Workload.cacheKey_eq_iff, hlifecycle, hlifecycle', hstack, hstack', Option.map_some,
          Option.map_some, halike]
        exact ⟨rfl, rfl⟩
      exact hsafe w w' g g' hg hg' _ (hbundles ▸ List.mem_singleton_self _) _
        (hbundles' ▸ List.mem_singleton_self _) hnames
    · intro halike w w' g g' hg hg' b hb b' hb' hnames
      obtain ⟨hname, huri⟩ := Workload.of_mem_bundles hg hb
      obtain ⟨hname', huri'⟩ := Workload.of_mem_bundles hg' hb'
      rw [hname, hname'] at hnames
      exact Workload.located_alike halike hnames huri huri'

theorem shared_names_identify_of_shop :
    ∃ g g', (Sample.task "abc").build (Sample.platform .ociPhase1) [] = .ok g ∧
      (Sample.task "").build (Sample.platform .ociPhase1) [] = .ok g' ∧
      ∀ b ∈ g.bundles, ∀ b' ∈ g'.bundles, b.1 = b'.1 ∧ b.2 = b'.2 := by
  have hlayered : ((Sample.task "abc").build (Sample.platform .ociPhase1) []).toBool = true := by
    decide +kernel
  have hdownloaded : ((Sample.task "").build (Sample.platform .ociPhase1) []).toBool = true := by
    decide +kernel
  obtain ⟨g, hg⟩ := exists_of_toBool hlayered
  obtain ⟨g', hg'⟩ := exists_of_toBool hdownloaded
  refine ⟨g, g', hg, hg', fun b hb b' hb' => ?_⟩
  obtain ⟨hnames, hplaces⟩ := (shared_names_identify _).1
    (.task (Sample.task "abc") []) (.task (Sample.task "") []) g g' hg hg' b hb b' hb'
  have hshared : b.1 = b'.1 := hnames.mpr ⟨rfl, rfl⟩
  refine ⟨hshared, (hplaces ?_ hshared).2⟩
  rintro stack (h | h) <;> cases h <;> decide

namespace Sample

/-- A platform with two stacks whose names differ by a dash and a slash. -/
def twins : SchedulerSettings :=
  { platform .ociPhase1 with lifecycleBundles :=
      ⟨.ofList [("buildpack/a-b", "one.tgz"), ("buildpack/a/b", "two.tgz"),
        ("docker", "docker.tgz")], some "http://files/", Url.parser⟩ }

def onStack (stack : String) : TaskSpec := { task "" with stack := stack }

end Sample

theorem twins_share_a_name :
    ((Sample.onStack "a-b").build Sample.twins []).toOption.map ActionGraph.bundles =
      some [("buildpack-a-b-lifecycle", "http://files/v1/static/one.tgz")] ∧
    ((Sample.onStack "a/b").build Sample.twins []).toOption.map ActionGraph.bundles =
      some [("buildpack-a-b-lifecycle", "http://files/v1/static/two.tgz")] := by
  decide +kernel

end Rollout
