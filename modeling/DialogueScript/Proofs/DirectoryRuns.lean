import DialogueScript.Proofs.SharedExpander

/- What a directory compilation does, said path by path: each discovered script is unreadable, known
   to the cache, refused, or compiled, and the compiled ones are merged in order. -/
namespace DialogueScript

theorem bind_ok_iff {ε α β : Type} {first : Except ε α} {next : α → Except ε β} {result : β} :
    (first >>= next) = .ok result ↔ ∃ value, first = .ok value ∧ next value = .ok result := by
  cases first with
  | error fault => simp [bind, Except.bind]
  | ok value => simp [bind, Except.bind]

theorem map_ok_iff {ε α β : Type} {first : Except ε α} {change : α → β} {result : β} :
    first.map change = .ok result ↔ ∃ value, first = .ok value ∧ change value = result := by
  cases first with
  | error fault => simp [Except.map]
  | ok value => simp [Except.map]

theorem bind_of_ok {ε α β : Type} (value : α) (next : α → Except ε β) :
    (Except.ok value >>= next) = next value := rfl

theorem map_error_iff {ε α β : Type} {first : Except ε α} {change : α → β} {error : ε} :
    first.map change = .error error ↔ first = .error error := by
  cases first with
  | error fault => simp [Except.map]
  | ok value => simp [Except.map]

theorem ok_of_any {ε α : Type} {outcome : Except ε α} {check : α → Bool}
    (checked : outcome.toOption.any check = true) :
    ∃ value, outcome = .ok value ∧ check value = true := by
  cases outcome with
  | error fault => simp [Except.toOption] at checked
  | ok value => exact ⟨value, rfl, checked⟩

section Settling

variable {α : Type} {policy : FailurePolicy}

def successes (outcomes : List (String × Except CompileError α)) : List α :=
  outcomes.filterMap (·.2.toOption)

def failures (outcomes : List (String × Except CompileError α)) : List FileFailure :=
  outcomes.filterMap fun outcome => (Graph.failure? outcome.2).map (⟨outcome.1, ·⟩)

theorem settle_ok_iff {outcomes : List (String × Except CompileError α)} {values : List α}
    {failed : List FileFailure} :
    settle policy outcomes = .ok (values, failed) ↔
      (policy = .failFast → failures outcomes = []) ∧
        values = successes outcomes ∧ failed = failures outcomes := by
  induction outcomes generalizing values failed with
  | nil => simp [settle, successes, failures]
  | cons outcome rest ih =>
    obtain ⟨path, result⟩ := outcome
    cases result with
    | ok value =>
      have head : successes ((path, .ok value) :: rest) = value :: successes rest := rfl
      have same : failures ((path, Except.ok value) :: rest) = failures rest := rfl
      simp only [settle, head, same, map_ok_iff, Prod.exists, ih, Prod.mk.injEq]
      constructor
      · rintro ⟨_, _, ⟨fast, rfl, rfl⟩, rfl, rfl⟩
        exact ⟨fast, rfl, rfl⟩
      · rintro ⟨fast, rfl, rfl⟩
        exact ⟨_, _, ⟨fast, rfl, rfl⟩, rfl, rfl⟩
    | error fault =>
      have same : successes ((path, (.error fault : Except CompileError α)) :: rest) =
          successes rest := rfl
      have head : failures ((path, (.error fault : Except CompileError α)) :: rest) =
          ⟨path, fault⟩ :: failures rest := rfl
      cases policy with
      | failFast => simp [settle, head]
      | skip =>
        simp only [settle, head, same, map_ok_iff, Prod.exists, ih, Prod.mk.injEq]
        constructor
        · rintro ⟨_, _, ⟨_, rfl, rfl⟩, rfl, rfl⟩
          exact ⟨by simp, rfl, rfl⟩
        · rintro ⟨_, rfl, rfl⟩
          exact ⟨_, _, ⟨by simp, rfl, rfl⟩, rfl, rfl⟩

end Settling

def isHit (options : Options) (tree : FileTree) (path : Path) : Bool :=
  match tree.read path with
  | .error _ => false
  | .ok content => options.cache[path.shown]? = some (Sha256.hex content)

/-- What a discovered path adds to a run, if it is readable, new to the cache and not refused. -/
def recompiledAt (options : Options) (tree : FileTree) (path : Path) : Option Recompiled :=
  match tree.read path with
  | .error _ => none
  | .ok content =>
    if options.cache[path.shown]? = some (Sha256.hex content) then none
    else (compileFile options tree path).toOption.map (⟨path.shown, Sha256.hex content, ·⟩)

def scannedFiles (options : Options) (tree : FileTree) (paths : List Path) : List Scanned :=
  successes (paths.map fun path => (path.shown, scan options.cache tree path))

/-- The failures of a run: the paths that could not be read, then those that were refused. -/
def runFailures (options : Options) (tree : FileTree) (paths : List Path) : List FileFailure :=
  failures (paths.map fun path => (path.shown, scan options.cache tree path)) ++
    failures ((scannedFiles options tree paths).filterMap (recompileAlone options))

variable {options : Options} {tree : FileTree} {root path : Path}

theorem compileFile_eq {content : List UInt8} (readable : tree.read path = .ok content) :
    compileFile options tree path =
      (compileBytes options options.expander path.shown content).1 := by
  simp only [compileFile, readFile, readable]
  rfl

theorem compileFile_unreadable {fault : FileFault} (unreadable : tree.read path = .error fault) :
    compileFile options tree path = .error (.read path.shown fault) := by
  simp only [compileFile, readFile, unreadable]
  rfl

theorem scan_eq {content : List UInt8} (readable : tree.read path = .ok content) :
    scan options.cache tree path = .ok ⟨path.shown, Sha256.hex content,
      if options.cache[path.shown]? = some (Sha256.hex content) then none else some content⟩ := by
  simp only [scan, readFile, readable]
  rfl

theorem scan_unreadable {fault : FileFault} (unreadable : tree.read path = .error fault) :
    scan options.cache tree path = .error (.read path.shown fault) := by
  simp only [scan, readFile, unreadable]
  rfl

theorem compiled_files_eq (options : Options) (tree : FileTree) (paths : List Path) :
    successes ((scannedFiles options tree paths).filterMap (recompileAlone options)) =
      paths.filterMap (recompiledAt options tree) := by
  simp only [successes, scannedFiles, List.filterMap_map, List.filterMap_filterMap]
  apply List.filterMap_congr
  intro path _
  simp only [Function.comp_apply, recompiledAt]
  cases readable : tree.read path with
  | error fault => simp [scan_unreadable readable, Except.toOption]
  | ok content =>
    rw [scan_eq readable, compileFile_eq readable]
    simp only [Except.toOption, Option.bind_some, recompileAlone]
    split
    · rfl
    · simp only [Option.map_some, Option.bind_some]
      cases (compileBytes options options.expander path.shown content).1 <;> rfl

theorem recompiledAt_eq_some {file : Recompiled}
    (some_file : recompiledAt options tree path = some file) :
    file.path = path.shown ∧ isHit options tree path = false ∧
      compileFile options tree path = .ok file.script ∧
      ∃ content, tree.read path = .ok content ∧ file.checksum = Sha256.hex content := by
  simp only [recompiledAt] at some_file
  cases readable : tree.read path with
  | error fault => simp [readable] at some_file
  | ok content =>
    simp only [readable] at some_file
    split at some_file
    · simp at some_file
    · rename_i missed
      obtain ⟨script, compiled, rfl⟩ := Option.map_eq_some_iff.mp some_file
      refine ⟨rfl, by simp [isHit, readable, missed], ?_, content, rfl, rfl⟩
      cases outcome : compileFile options tree path with
      | error fault => simp [outcome, Except.toOption] at compiled
      | ok result =>
        simp only [outcome, Except.toOption, Option.some.injEq] at compiled
        rw [compiled]

/-- A run succeeds exactly if discovery and merging do and no failure stops it, and its result is
put together from what each path gives. -/
theorem compileDirectory_ok_iff {out : CompiledDirectory} :
    compileDirectory options tree root = .ok out ↔
      ∃ paths graph, tree.discover root options.extension = .ok paths ∧
        (options.failurePolicy = .failFast → runFailures options tree paths = []) ∧
        mergeAll options.topicConflicts {}
          ((paths.filterMap (recompiledAt options tree)).map (·.script.graph)) = .ok graph ∧
        out = .assemble (scannedFiles options tree paths)
          (paths.filterMap (recompiledAt options tree)) graph (runFailures options tree paths) := by
  have alone : ∀ files, recompileAll options options.expander files =
      files.filterMap (recompileAlone options) :=
    recompileAll_eq (Concept.new_expander_faithful options.sources)
  simp only [compileDirectory]
  cases discovered : tree.discover root options.extension with
  | error fault => simp
  | ok paths =>
    simp only [Except.ok.injEq, exists_and_left, exists_eq_left', alone, bind_ok_iff, pure,
      Except.pure, Prod.exists, settle_ok_iff]
    constructor
    · rintro ⟨scanned, unread, ⟨fast, rfl, rfl⟩, compiled, failed, ⟨faster, rfl, rfl⟩, graph,
        merged, rfl⟩
      refine ⟨?_, graph, ?_, ?_⟩
      · intro policy
        exact List.append_eq_nil_iff.mpr ⟨fast policy, faster policy⟩
      · rw [← compiled_files_eq]
        exact merged
      · rw [← compiled_files_eq]
        rfl
    · rintro ⟨fast, graph, merged, rfl⟩
      rw [← compiled_files_eq] at merged ⊢
      exact ⟨_, _, ⟨fun policy => (List.append_eq_nil_iff.mp (fast policy)).1, rfl, rfl⟩, _, _,
        ⟨fun policy => (List.append_eq_nil_iff.mp (fast policy)).2, rfl, rfl⟩, graph, merged, rfl⟩

theorem compileDirectory_congr {other : FileTree} {paths : List Path}
    (discovered : tree.discover root options.extension = .ok paths)
    (found : other.discover root options.extension = .ok paths)
    (same : ∀ path ∈ paths, other.read path = tree.read path) :
    compileDirectory options other root = compileDirectory options tree root := by
  have scans : (paths.map fun path => (path.shown, scan options.cache other path)) =
      paths.map fun path => (path.shown, scan options.cache tree path) := by
    apply List.map_congr_left
    intro path member
    simp only [scan, readFile, same path member]
  simp only [compileDirectory, discovered, found, scans]

theorem mem_checksumTable {entries : List (String × String)} {path : String} :
    path ∈ checksumTable entries ↔ path ∈ entries.map (·.1) := by
  have step : ∀ table : Checksums,
      path ∈ entries.foldl (fun table entry => table.insert entry.1 entry.2) table ↔
        path ∈ table ∨ path ∈ entries.map (·.1) := by
    induction entries with
    | nil => simp
    | cons entry rest ih =>
      intro table
      simp only [List.foldl_cons, ih, Std.ExtTreeMap.mem_insert, Std.compare_eq_iff_eq,
        List.map_cons, List.mem_cons]
      grind
  simpa [checksumTable] using step ∅

theorem checksums_cover_run (scanned : List Scanned) (compiled : List Recompiled) (graph : Graph)
    (failed : List FileFailure) (path : String) :
    path ∈ (CompiledDirectory.assemble scanned compiled graph failed).checksums ↔
      path ∈ (CompiledDirectory.assemble scanned compiled graph failed).recompiled ∨
        path ∈ (CompiledDirectory.assemble scanned compiled graph failed).unchanged := by
  simp only [CompiledDirectory.assemble, mem_checksumTable, List.map_append, List.map_map,
    List.mem_append]
  exact or_comm

def sampleTree : FileTree :=
  ((({} : FileTree).put (Path.steps "chat") .directory).put
      (Path.steps "chat/a.ss")
      (.file (Text.encode "+ hi\n- hello\n+ bye\n% hello\n- see you"))).put
    (Path.steps "chat/b.ss") (.file (Text.encode "+ ho\n- hey"))

def samplePaths : List Path := ["chat/a.ss", "chat/b.ss"]

theorem sample_scripts_discovered :
    sampleTree.discover "chat" "ss" = .ok samplePaths ∧
      ∀ path ∈ samplePaths, ∃ content, sampleTree.read path = .ok content := by
  refine ⟨by rfl, ?_⟩
  intro path member
  simp only [samplePaths, List.mem_cons, List.not_mem_nil, or_false] at member
  rcases member with rfl | rfl
  · exact ⟨_, by rfl⟩
  · exact ⟨_, by rfl⟩

theorem sampleTree_compiles : ∃ out, compileDirectory {} sampleTree "chat" = .ok out ∧
    out.knowledgeBase.isEmpty = false ∧ out.recompiled = ["chat/a.ss", "chat/b.ss"] ∧
    rebuildDirectory { cache := out.knowledgeBase.checksums } sampleTree "chat" =
      .ok .upToDate := by
  have evaluated : (compileDirectory {} sampleTree "chat").toOption.any (fun out =>
      !out.knowledgeBase.isEmpty && decide (out.recompiled = ["chat/a.ss", "chat/b.ss"]) &&
        (rebuildDirectory { cache := out.knowledgeBase.checksums } sampleTree "chat").toOption.any
          fun rebuilt => decide (rebuilt = .upToDate)) = true := by
    decide +kernel
  obtain ⟨out, ok, checked⟩ := ok_of_any evaluated
  simp only [Bool.and_eq_true, Bool.not_eq_eq_eq_not, Bool.not_true, decide_eq_true_eq] at checked
  obtain ⟨⟨filled, recompiled⟩, current⟩ := checked
  obtain ⟨rebuilt, again, same⟩ := ok_of_any current
  exact ⟨out, ok, filled, recompiled, again.trans (congrArg _ (of_decide_eq_true same))⟩

end DialogueScript
