import DialogueScript.Proofs.FileAccounting

/- The two failure policies. Skipping goes on to the end of a run, failing fast stops at the failure
   that skipping would list first. A script that fails leaves no trace in what the others give. -/
namespace DialogueScript

theorem settle_stops {α : Type} {outcomes : List (String × Except CompileError α)}
    {failure : FileFailure} {later : List FileFailure}
    (failed : failures outcomes = failure :: later) :
    settle .failFast outcomes = .error failure.error := by
  induction outcomes with
  | nil => cases failed
  | cons outcome rest ih =>
    obtain ⟨path, result⟩ := outcome
    cases result with
    | error error =>
      have first : failures ((path, (.error error : Except CompileError α)) :: rest) =
          ⟨path, error⟩ :: failures rest := rfl
      rw [first] at failed
      cases failed
      rfl
    | ok value =>
      have same : failures ((path, Except.ok value) :: rest) = failures rest := rfl
      rw [same] at failed
      unfold settle
      rw [ih failed]
      rfl

variable {options : Options} {tree other : FileTree} {root otherRoot : Path}
  {paths later : List Path}

theorem recompileAll_alone (options : Options) (files : List Scanned) :
    recompileAll options options.expander files = files.filterMap (recompileAlone options) :=
  recompileAll_eq (Concept.new_expander_faithful options.sources) files

theorem unstopped_run
    (calm : options.failurePolicy = .failFast → failedOf options tree paths = [])
    (discovered : tree.discover root options.extension = .ok paths) :
    compileDirectory options tree root =
      (mergeAll options.topicConflicts {}
        ((compiledOf options tree paths).map (·.script.graph))).map
          (.ofFates options tree paths) := by
  rw [← failures_of_fates] at calm
  have read : settle options.failurePolicy
      (paths.map fun path => (path.shown, scan options.cache tree path)) =
      .ok (scannedFiles options tree paths,
        failures (paths.map fun path => (path.shown, scan options.cache tree path))) := by
    refine settle_ok_iff.mpr ⟨?_, rfl, rfl⟩
    intro fast
    exact (List.append_eq_nil_iff.mp (calm fast)).1
  have compiled : settle options.failurePolicy
      ((scannedFiles options tree paths).filterMap (recompileAlone options)) =
      .ok (compiledOf options tree paths,
        failures ((scannedFiles options tree paths).filterMap (recompileAlone options))) := by
    rw [← compiled_files_of_fates, ← compiled_files_eq]
    refine settle_ok_iff.mpr ⟨?_, rfl, rfl⟩
    intro fast
    exact (List.append_eq_nil_iff.mp (calm fast)).2
  have result : ∀ graph, CompiledDirectory.assemble (scannedFiles options tree paths)
      (compiledOf options tree paths) graph
      (failures (paths.map fun path => (path.shown, scan options.cache tree path)) ++
        failures ((scannedFiles options tree paths).filterMap (recompileAlone options))) =
      .ofFates options tree paths graph := by
    intro graph
    rw [← assembled_of_fates, ← failures_of_fates]
    rfl
  unfold compileDirectory
  simp only [discovered, read, recompileAll_alone, compiled, bind_of_ok, result]
  cases mergeAll options.topicConflicts {} ((compiledOf options tree paths).map (·.script.graph))
  · rfl
  · rfl

/-- Failing fast, a run stops at the first failure. Scripts that cannot be read come first. -/
theorem stopped_run (fast : options.failurePolicy = .failFast)
    (discovered : tree.discover root options.extension = .ok paths) {failure : FileFailure}
    {more : List FileFailure} (failed : failedOf options tree paths = failure :: more) :
    compileDirectory options tree root = .error failure.error := by
  rw [← failures_of_fates] at failed
  unfold runFailures at failed
  unfold compileDirectory
  simp only [discovered, fast, recompileAll_alone]
  cases unread : failures (paths.map fun path => (path.shown, scan options.cache tree path)) with
  | cons first others =>
    rw [unread] at failed
    cases failed
    rw [settle_stops unread]
    rfl
  | nil =>
    have scanned : settle .failFast
        (paths.map fun path => (path.shown, scan options.cache tree path)) =
        .ok (scannedFiles options tree paths, []) :=
      settle_ok_iff.mpr ⟨fun _ => unread, rfl, unread.symm⟩
    rw [unread, List.nil_append] at failed
    simp only [scanned, bind_of_ok, settle_stops failed]
    rfl

def DeclaredTwice (options : Options) (tree : FileTree) (name : String) : Prop :=
  ∃ (first second : Path) (firstScript secondScript : CompiledScript), first ≠ second ∧
    compileFile options tree first = .ok firstScript ∧ name ∈ firstScript.graph.topics ∧
    compileFile options tree second = .ok secondScript ∧ name ∈ secondScript.graph.topics

/-- The scripts that were compiled, with the paths where they are. What is shown of these is not
enough to find them again. -/
def compiledAt (options : Options) (tree : FileTree) (paths : List Path) :
    List (Path × Recompiled) :=
  paths.filterMap fun path => (recompiledAt options tree path).map (path, ·)

theorem compiledAt_files (options : Options) (tree : FileTree) (paths : List Path) :
    (compiledAt options tree paths).map (·.2) = compiledOf options tree paths := by
  rw [← compiled_files_of_fates, compiledAt, List.map_filterMap]
  simp [Function.comp_def]

theorem mem_compiledAt {path : Path} {file : Recompiled} :
    (path, file) ∈ compiledAt options tree paths ↔
      path ∈ paths ∧ recompiledAt options tree path = some file := by
  simp only [compiledAt, List.mem_filterMap, Option.map_eq_some_iff, Prod.mk.injEq]
  constructor
  · rintro ⟨_, member, _, found, rfl, rfl⟩
    exact ⟨member, found⟩
  · rintro ⟨member, found⟩
    exact ⟨path, member, file, found, rfl, rfl⟩

theorem compiledAt_compiles {compiled : Path × Recompiled}
    (member : compiled ∈ compiledAt options tree paths) :
    compileFile options tree compiled.1 = .ok compiled.2.script :=
  (recompiledAt_eq_some (mem_compiledAt.mp member).2).2.2.1

theorem compiledAt_paths (options : Options) (tree : FileTree) (paths : List Path) :
    (compiledAt options tree paths).map (·.1) = paths.filter (isRecompiled options tree) := by
  rw [compiledAt, List.map_filterMap, ← List.filterMap_eq_filter]
  apply List.filterMap_congr
  intro path _
  cases found : recompiledAt options tree path with
  | none =>
    have out : ¬ isRecompiled options tree path = true := by simp [isRecompiled_iff, found]
    simp [Option.guard, out]
  | some file => simp [Option.guard, isRecompiled_iff.mpr ⟨file, found⟩]

theorem failed_merge
    (ascending : paths.Pairwise fun first second => first.steps < second.steps)
    {error : CompileError}
    (failed : mergeAll options.topicConflicts {}
      ((compiledOf options tree paths).map (·.script.graph)) = .error error) :
    (∃ id, error = .repeatedIdentifier id) ∨
      ∃ name, error = .repeatedTopic name ∧ DeclaredTwice options tree name := by
  rw [← compiledAt_files, List.map_map] at failed
  rcases mergeAll_fault failed with
    repeated | ⟨name, before, graph, after, same, split, has, earlier⟩
  · exact .inl repeated
  · refine .inr ⟨name, same, ?_⟩
    obtain ⟨firsts, rest, files, rfl, rest_split⟩ := List.map_eq_append_iff.mp split
    obtain ⟨second, lasts, rfl, rfl, rfl⟩ := List.map_eq_cons_iff.mp rest_split
    rcases earlier with nothing | ⟨_, member, held⟩
    · exact absurd nothing Std.ExtTreeMap.not_mem_empty
    · obtain ⟨first, among, rfl⟩ := List.mem_map.mp member
      have distinct : ((compiledAt options tree paths).map (·.1)).Nodup := by
        rw [compiledAt_paths]
        exact (FileTree.ascending_nodup ascending).filter _
      have inside : ∀ compiled ∈ firsts ++ second :: lasts,
          compileFile options tree compiled.1 = .ok compiled.2.script := by
        intro compiled listed
        exact compiledAt_compiles (files ▸ listed)
      rw [files, List.map_append, List.map_cons, List.nodup_append] at distinct
      have apart : first.1 ≠ second.1 :=
        distinct.2.2 _ (List.mem_map_of_mem among) _ List.mem_cons_self
      exact ⟨first.1, second.1, first.2.script, second.2.script, apart,
        inside first (by simp [among]), held, inside second (by simp), has⟩

theorem failing_fast_ok_iff {out : CompiledDirectory} :
    compileDirectory { options with failurePolicy := .failFast } tree root = .ok out ↔
      compileDirectory { options with failurePolicy := .skip } tree root = .ok out ∧
        out.failures = [] := by
  -- The fates of the scripts do not depend on the policy.
  rw [compileDirectory_of_fates, compileDirectory_of_fates]
  constructor
  · rintro ⟨paths, graph, discovered, clean, merged, rfl⟩
    exact ⟨⟨paths, graph, discovered, by simp, merged, rfl⟩, clean rfl⟩
  · rintro ⟨⟨paths, graph, discovered, _, merged, rfl⟩, clean⟩
    exact ⟨paths, graph, discovered, fun _ => clean, merged, rfl⟩

theorem failing_fast_stops {out : CompiledDirectory} {failure : FileFailure}
    {more : List FileFailure}
    (skipped : compileDirectory { options with failurePolicy := .skip } tree root = .ok out)
    (failed : out.failures = failure :: more) :
    compileDirectory { options with failurePolicy := .failFast } tree root =
      .error failure.error := by
  obtain ⟨paths, graph, discovered, _, _, rfl⟩ := compileDirectory_of_fates.mp skipped
  exact @stopped_run { options with failurePolicy := .failFast } tree root paths rfl discovered
    failure more failed

theorem skipping_error {error : CompileError}
    (failed : compileDirectory { options with failurePolicy := .skip } tree root = .error error) :
    (∃ fault, error = .walk root.shown fault) ∨ (∃ id, error = .repeatedIdentifier id) ∨
      ∃ name, error = .repeatedTopic name ∧ DeclaredTwice options tree name := by
  cases discovered : tree.discover root options.extension with
  | error fault =>
    unfold compileDirectory at failed
    simp only [discovered] at failed
    exact .inl ⟨fault, (Except.error.inj failed).symm⟩
  | ok paths =>
    rw [@unstopped_run { options with failurePolicy := .skip } tree root paths (by simp) discovered,
      map_error_iff] at failed
    exact .inr (failed_merge (FileTree.discovered_ascending discovered) failed)

/-- The policies agree on a run without failures. Where skipping lists failures, failing fast ends
with the first of them. Skipping itself fails only in discovery, or over what two scripts share. -/
theorem failure_policies_agree (options : Options) (tree : FileTree) (root : Path) :
    (∀ out, compileDirectory { options with failurePolicy := .skip } tree root = .ok out →
      (out.failures = [] →
        compileDirectory { options with failurePolicy := .failFast } tree root = .ok out) ∧
      ∀ failure more, out.failures = failure :: more →
        compileDirectory { options with failurePolicy := .failFast } tree root =
          .error failure.error) ∧
    ∀ error, compileDirectory { options with failurePolicy := .skip } tree root = .error error →
      (∃ fault, error = .walk root.shown fault) ∨ (∃ id, error = .repeatedIdentifier id) ∨
        ∃ name, error = .repeatedTopic name ∧ DeclaredTwice options tree name := by
  refine ⟨?_, fun error failed => skipping_error failed⟩
  intro out skipped
  refine ⟨?_, ?_⟩
  · intro clean
    exact failing_fast_ok_iff.mpr ⟨skipped, clean⟩
  · intro failure more failed
    exact failing_fast_stops skipped failed

theorem sample_policies_agree :
    (∃ out, compileDirectory { failurePolicy := .skip } sampleTree "chat" = .ok out ∧
      out.failures = [] ∧ compileDirectory {} sampleTree "chat" = .ok out) ∧
    (∃ out failure, compileDirectory mixedOptions mixedTree "chat" = .ok out ∧
      out.failures = [failure] ∧ failure.path = "chat/c.ss" ∧
      compileDirectory { mixedOptions with failurePolicy := .failFast } mixedTree "chat" =
        .error failure.error) := by
  constructor
  · obtain ⟨out, ok, _⟩ := sampleTree_compiles
    obtain ⟨skipped, clean⟩ := (@failing_fast_ok_iff {} sampleTree "chat" out).mp ok
    exact ⟨out, skipped, clean,
      ((failure_policies_agree {} sampleTree "chat").1 out skipped).1 clean⟩
  · obtain ⟨out, ok, _, _, failed⟩ := mixedTree_compiles
    obtain ⟨failure, more, listed, named, rest⟩ := List.map_eq_cons_iff.mp failed
    cases List.map_eq_nil_iff.mp rest
    exact ⟨out, failure, ok, listed, named,
      ((failure_policies_agree mixedOptions mixedTree "chat").1 out ok).2 failure [] listed⟩

section Isolation

/-! Two runs, the second without the scripts that fail in the first. -/

structure Remain (options : Options) (tree other : FileTree) (paths later : List Path) :
    Prop where
  among : later = paths.filter fun path => !failsAt options tree path
  same : ∀ path ∈ later, other.read path = tree.read path

theorem Remain.met (remain : Remain options tree other paths later) {path : Path}
    (member : path ∈ later) :
    fate options other path = fate options tree path ∧
      (fate options tree path).fails = false := by
  refine ⟨fate_congr (remain.same path member), ?_⟩
  rw [remain.among, List.mem_filter] at member
  simpa [fails_eq] using member.2

/-- What no failing script gives is given alike in both runs. -/
theorem Remain.picked {α : Type} (remain : Remain options tree other paths later)
    {pick : Path → Fate → Option α}
    (nothing : ∀ path fate, fate.fails = true → pick path fate = none) :
    (later.filterMap fun path => pick path (fate options other path)) =
      paths.filterMap fun path => pick path (fate options tree path) := by
  have alike : (later.filterMap fun path => pick path (fate options other path)) =
      later.filterMap fun path => pick path (fate options tree path) := by
    apply List.filterMap_congr
    intro path member
    rw [(remain.met member).1]
  rw [alike, remain.among, List.filterMap_filter]
  apply List.filterMap_congr
  intro path _
  rw [← fails_eq]
  cases fails : (fate options tree path).fails with
  | false => rfl
  | true => exact (nothing path _ fails).symm

theorem Remain.nothing_fails (remain : Remain options tree other paths later) :
    failedOf options other later = [] := by
  have none : later.filter (failsAt options other) = [] := by
    rw [List.filter_eq_nil_iff]
    intro path member
    obtain ⟨same, fine⟩ := remain.met member
    rw [← fails_eq, same, fine]
    exact Bool.false_ne_true
  have listed := failed_paths options other later
  rw [none] at listed
  exact List.map_eq_nil_iff.mp listed.eq_nil

theorem Remain.compiled (remain : Remain options tree other paths later) :
    compiledOf options other later = compiledOf options tree paths := by
  apply @Remain.picked _ _ _ _ _ _ remain fun _ fate => fate.compiled?
  intro _ fate fails
  cases fate with
  | compiled file => cases fails
  | _ => rfl

theorem Remain.unchanged (remain : Remain options tree other paths later) :
    unchangedOf options other later = unchangedOf options tree paths := by
  apply @Remain.picked _ _ _ _ _ _ remain fun path fate => fate.unchanged? path
  intro _ fate fails
  cases fate with
  | unchanged checksum => cases fails
  | _ => rfl

theorem Remain.result (remain : Remain options tree other paths later) (graph : Graph) :
    CompiledDirectory.ofFates options other later graph =
      { CompiledDirectory.ofFates options tree paths graph with failures := [] } := by
  unfold CompiledDirectory.ofFates
  rw [remain.compiled, remain.unchanged, remain.nothing_fails]
  rfl

theorem ascending_ext {paths others : List Path}
    (first : paths.Pairwise fun a b => a.steps < b.steps)
    (second : others.Pairwise fun a b => a.steps < b.steps)
    (same : ∀ path, path ∈ paths ↔ path ∈ others) : paths = others := by
  have perm : paths.Perm others := (List.perm_ext_iff_of_nodup (FileTree.ascending_nodup first)
    (FileTree.ascending_nodup second)).mpr same
  exact perm.eq_of_pairwise (fun _ _ _ _ less more => absurd more (List.lt_asymm less)) first second

/-- Scripts that fail are as good as absent: they are the ones that the run names, without them it
has no failures, and all else is as it was. -/
theorem failures_are_isolated {out : CompiledDirectory} (skip : options.failurePolicy = .skip)
    (ok : compileDirectory options tree root = .ok out)
    (discovered : tree.discover root options.extension = .ok paths)
    (found : other.discover otherRoot options.extension = .ok later)
    (remaining : ∀ path, path ∈ later ↔ path ∈ paths ∧ failsAt options tree path = false)
    (same : ∀ path ∈ later, other.read path = tree.read path) :
    (out.failures.map (·.path)).Perm ((paths.filter (failsAt options tree)).map Path.shown) ∧
      compileDirectory options other otherRoot = .ok { out with failures := [] } := by
  obtain ⟨_, graph, again, _, merged, rfl⟩ := compileDirectory_of_fates.mp ok
  cases discovered.symm.trans again
  have among : later = paths.filter fun path => !failsAt options tree path := by
    apply ascending_ext (FileTree.discovered_ascending found)
      ((FileTree.discovered_ascending discovered).filter _)
    intro path
    rw [remaining, List.mem_filter, Bool.not_eq_eq_eq_not, Bool.not_true]
  have remain : Remain options tree other paths later := ⟨among, same⟩
  refine ⟨failed_paths options tree paths, ?_⟩
  refine compileDirectory_of_fates.mpr ⟨later, graph, found, ?_, ?_, (remain.result graph).symm⟩
  · intro fast
    rw [skip] at fast
    cases fast
  · rw [remain.compiled]
    exact merged

theorem mixed_failure_is_isolated : ∃ out,
    compileDirectory mixedOptions mixedTree "chat" = .ok out ∧
    out.failures.map (·.path) = ["chat/c.ss"] ∧
    compileDirectory mixedOptions sampleTree "chat" = .ok { out with failures := [] } := by
  have discovered : mixedTree.discover "chat" "ss" = .ok mixedPaths := rfl
  have first : sampleTree.read "chat/a.ss" = mixedTree.read "chat/a.ss" := by
    trans Except.ok (Text.encode "+ hi\n- hello\n+ bye\n% hello\n- see you") <;> rfl
  have second : sampleTree.read "chat/b.ss" = mixedTree.read "chat/b.ss" := by
    trans Except.ok (Text.encode "+ ho\n- hey") <;> rfl
  have same : ∀ path ∈ samplePaths, sampleTree.read path = mixedTree.read path := by
    simp only [samplePaths, List.mem_cons, List.not_mem_nil, or_false, forall_eq_or_imp, forall_eq]
    exact ⟨first, second⟩
  obtain ⟨out, ok, _, _, failed⟩ := mixedTree_compiles
  have remaining : ∀ path, path ∈ samplePaths ↔
      path ∈ mixedPaths ∧ failsAt mixedOptions mixedTree path = false := by
    obtain ⟨_, graph, again, _, _, rfl⟩ := compileDirectory_of_fates.mp ok
    cases discovered.symm.trans again
    rw [ofFates_failures] at failed
    intro path
    rw [← Bool.not_eq_true]
    constructor
    · intro member
      have listed : path ∈ mixedPaths := (by decide : samplePaths ⊆ mixedPaths) member
      rw [failsAt_iff_named mixed_paths_shown_apart listed, failed]
      exact ⟨listed, (by decide : ∀ path ∈ samplePaths, path.shown ∉ ["chat/c.ss"]) path member⟩
    · rintro ⟨listed, fine⟩
      rw [failsAt_iff_named mixed_paths_shown_apart listed, failed] at fine
      exact (by decide : ∀ path ∈ mixedPaths, path.shown ∉ ["chat/c.ss"] → path ∈ samplePaths) path
        listed fine
  exact ⟨out, ok, failed,
    (failures_are_isolated rfl ok discovered sample_scripts_discovered.1 remaining same).2⟩

end Isolation

end DialogueScript
