import DialogueScript.Proofs.Discovery
import DialogueScript.Proofs.Merging

/- A directory compilation is the ordered merge of what its scripts give one by one. -/
namespace DialogueScript

variable {options : Options} {tree : FileTree} {root : Path}

/-- Whether a discovered script ends up in a run: the cache does not know it, and it compiles. -/
def isRecompiled (options : Options) (tree : FileTree) (path : Path) : Bool :=
  !isHit options tree path && (compileFile options tree path).isOk

theorem recompiledAt_path (path : Path) :
    (recompiledAt options tree path).map (·.path) =
      if isRecompiled options tree path then some path.shown else none := by
  cases readable : tree.read path with
  | error fault =>
    simp [recompiledAt, isRecompiled, isHit, readable, compileFile_unreadable readable, Except.isOk,
      Except.toBool]
  | ok content =>
    simp only [recompiledAt, isRecompiled, isHit, readable]
    by_cases known : options.cache[path.shown]? = some (Sha256.hex content)
    · simp [known]
    · cases compileFile options tree path with
      | error fault => simp [known, Except.toOption, Except.isOk, Except.toBool]
      | ok script => simp [known, Except.toOption, Except.isOk, Except.toBool]

theorem isRecompiled_iff {path : Path} :
    isRecompiled options tree path = true ↔ ∃ file, recompiledAt options tree path = some file := by
  have listed := @recompiledAt_path options tree path
  cases found : recompiledAt options tree path with
  | none => simpa [found] using listed
  | some file =>
    have into : isRecompiled options tree path = true ∧ file.path = path.shown := by
      simpa [found] using listed
    simp [into.1]

theorem recompiled_at_paths (paths : List Path) :
    List.Forall₂ (fun path file => recompiledAt options tree path = some file)
      (paths.filter (isRecompiled options tree)) (paths.filterMap (recompiledAt options tree)) := by
  induction paths with
  | nil => exact .nil
  | cons path rest ih =>
    cases found : recompiledAt options tree path with
    | none =>
      have out : ¬ isRecompiled options tree path = true := by simp [isRecompiled_iff, found]
      rw [List.filter_cons_of_neg out, List.filterMap_cons_none found]
      exact ih
    | some file =>
      have into := isRecompiled_iff.mpr ⟨file, found⟩
      rw [List.filter_cons_of_pos into, List.filterMap_cons_some found]
      exact .cons found ih

theorem recompiled_paths (paths : List Path) :
    (paths.filterMap (recompiledAt options tree)).map (·.path) =
      (paths.filter (isRecompiled options tree)).map Path.shown := by
  rw [List.map_filterMap, ← List.filterMap_eq_filter, List.map_filterMap]
  apply List.filterMap_congr
  intro path _
  rw [recompiledAt_path]
  simp [Option.guard]

theorem recompiled_scripts (paths : List Path) :
    List.Forall₂ (fun path script => compileFile options tree path = .ok script)
      (paths.filter (isRecompiled options tree))
      ((paths.filterMap (recompiledAt options tree)).map (·.script)) := by
  rw [List.forall₂_map_right_iff]
  exact (recompiled_at_paths paths).imp fun _ _ found => (recompiledAt_eq_some found).2.2.1

/-- The scripts that are compiled anew are the discovered ones that the cache does not know and that
compile, in the order of discovery. Compiling each of them on its own and merging the graphs in that
order gives the graph, the diagnostics and the counts of the run. -/
theorem directory_is_ordered_merge {out : CompiledDirectory}
    (ok : compileDirectory options tree root = .ok out) :
    ∃ paths scripts graph,
      tree.discover root options.extension = .ok paths ∧
      paths.Pairwise (fun first second => Path.steps first < Path.steps second) ∧
      out.recompiled = (paths.filter (isRecompiled options tree)).map Path.shown ∧
      List.Forall₂ (fun path script => compileFile options tree path = .ok script)
        (paths.filter (isRecompiled options tree)) scripts ∧
      mergeAll options.topicConflicts {} (scripts.map (·.graph)) = .ok graph ∧
      out.knowledgeBase =
        (if graph.isIncomplete then .empty else { graph, checksums := out.checksums }) ∧
      out.diagnostics = (out.recompiled.zip scripts).flatMap
        (fun compiled => compiled.2.diagnostics.map (compiled.1, ·)) ∧
      graph.gambits.size = (out.files.map (·.gambits)).sum ∧
      graph.replies.size = (out.files.map (·.replies)).sum := by
  obtain ⟨paths, graph, discovered, _, merged, rfl⟩ := compileDirectory_ok_iff.mp ok
  obtain ⟨gambits, replies⟩ := mergeAll_counts merged
  refine ⟨paths, (paths.filterMap (recompiledAt options tree)).map (·.script), graph, discovered,
    FileTree.discovered_ascending discovered, recompiled_paths paths, recompiled_scripts paths,
    ?_, rfl, ?_, ?_, ?_⟩
  · rw [List.map_map]
    exact merged
  · simp only [CompiledDirectory.assemble, List.zip_map', List.flatMap_map]
  · simpa [CompiledDirectory.assemble, Recompiled.counts, Function.comp_def] using gambits
  · simpa [CompiledDirectory.assemble, Recompiled.counts, Function.comp_def] using replies

theorem sample_directory_is_ordered_merge : ∃ out scripts graph,
    compileDirectory {} sampleTree "chat" = .ok out ∧
    List.Forall₂ (fun path script => compileFile {} sampleTree path = .ok script)
      samplePaths scripts ∧
    mergeAll .extend {} (scripts.map (·.graph)) = .ok graph ∧
    graph.gambits.size = (out.files.map (·.gambits)).sum := by
  obtain ⟨out, ok, _, recompiled, _⟩ := sampleTree_compiles
  obtain ⟨paths, scripts, graph, discovered, _, listed, each, merged, _, _, gambits, _⟩ :=
    directory_is_ordered_merge ok
  cases sample_scripts_discovered.1.symm.trans discovered
  have all : samplePaths.filter (isRecompiled {} sampleTree) = samplePaths := by
    apply List.filter_sublist.eq_of_length
    rw [← List.length_map Path.shown, ← listed, recompiled]
    rfl
  exact ⟨out, scripts, graph, ok, all ▸ each, merged, gambits⟩

end DialogueScript
