import DialogueScript.Proofs.RebuildSoundness

/- The books of a directory run. A discovered script meets one of four fates, which depends on its
   content and on the cache and on no other script. The lists and the checksums of the result are
   read off the fates. They name a script by what is shown of its path, so the books are in order
   exactly if no two of the discovered paths look alike. -/
namespace DialogueScript

inductive Fate where
  | unreadable (fault : FileFault)
  | unchanged (checksum : String)
  | refused (error : CompileError)
  | compiled (file : Recompiled)

def fate (options : Options) (tree : FileTree) (path : Path) : Fate :=
  match tree.read path with
  | .error fault => .unreadable fault
  | .ok content =>
    if options.cache[path.shown]? = some (Sha256.hex content) then .unchanged (Sha256.hex content)
    else
      match compileFile options tree path with
      | .error error => .refused error
      | .ok script => .compiled ⟨path.shown, Sha256.hex content, script⟩

namespace Fate

def compiled? : Fate → Option Recompiled
  | .compiled file => some file
  | _ => none

def unchanged? (path : Path) : Fate → Option Scanned
  | .unchanged checksum => some ⟨path.shown, checksum, none⟩
  | _ => none

def unread? (path : Path) : Fate → Option FileFailure
  | .unreadable fault => some ⟨path.shown, .read path.shown fault⟩
  | _ => none

def refused? (path : Path) : Fate → Option FileFailure
  | .refused error => some ⟨path.shown, error⟩
  | _ => none

def fails : Fate → Bool
  | .unreadable _ => true
  | .refused _ => true
  | _ => false

end Fate

/-- What a fate says about the content of a script, the cache and the compiler. -/
inductive Meets (options : Options) (tree : FileTree) (path : Path) : Fate → Prop
  | unreadable {fault : FileFault} (read : tree.read path = .error fault) :
      Meets options tree path (.unreadable fault)
  | unchanged {content : List UInt8} (read : tree.read path = .ok content)
      (known : options.cache[path.shown]? = some (Sha256.hex content)) :
      Meets options tree path (.unchanged (Sha256.hex content))
  | refused {content : List UInt8} {error : CompileError} (read : tree.read path = .ok content)
      (missed : options.cache[path.shown]? ≠ some (Sha256.hex content))
      (outcome : compileFile options tree path = .error error) :
      Meets options tree path (.refused error)
  | compiled {content : List UInt8} {script : CompiledScript} (read : tree.read path = .ok content)
      (missed : options.cache[path.shown]? ≠ some (Sha256.hex content))
      (outcome : compileFile options tree path = .ok script) :
      Meets options tree path (.compiled ⟨path.shown, Sha256.hex content, script⟩)

theorem meets_fate (options : Options) (tree : FileTree) (path : Path) :
    Meets options tree path (fate options tree path) := by
  unfold fate
  cases read : tree.read path with
  | error fault => exact .unreadable read
  | ok content =>
    by_cases known : options.cache[path.shown]? = some (Sha256.hex content)
    · simp only [known, ↓reduceIte]
      exact .unchanged read known
    · simp only [known, ↓reduceIte]
      cases outcome : compileFile options tree path with
      | error error => exact .refused read known outcome
      | ok script => exact .compiled read known outcome

variable {options : Options} {tree other : FileTree} {root path : Path}

theorem fate_congr (same : other.read path = tree.read path) :
    fate options other path = fate options tree path := by
  unfold fate compileFile readFile
  rw [same]

/-! What a run lists, read off the fates of the discovered paths. -/

def compiledOf (options : Options) (tree : FileTree) (paths : List Path) : List Recompiled :=
  paths.filterMap fun path => (fate options tree path).compiled?

def unchangedOf (options : Options) (tree : FileTree) (paths : List Path) : List Scanned :=
  paths.filterMap fun path => (fate options tree path).unchanged? path

def failedOf (options : Options) (tree : FileTree) (paths : List Path) : List FileFailure :=
  (paths.filterMap fun path => (fate options tree path).unread? path) ++
    paths.filterMap fun path => (fate options tree path).refused? path

theorem filterMap_of_fates {α : Type} {pick : Path → Option α}
    (give : Path → Fate → Option α)
    (each : ∀ path fate, Meets options tree path fate → pick path = give path fate)
    (paths : List Path) :
    paths.filterMap pick = paths.filterMap fun path => give path (fate options tree path) := by
  apply List.filterMap_congr
  intro path _
  exact each path _ (meets_fate options tree path)

theorem recompiledAt_of_fate (options : Options) (tree : FileTree) (path : Path) :
    recompiledAt options tree path = (fate options tree path).compiled? := by
  have met := meets_fate options tree path
  unfold recompiledAt
  generalize fate options tree path = fate at met
  cases met with
  | unreadable read => rw [read]; rfl
  | unchanged read known => simp only [read, known]; rfl
  | refused read missed outcome => simp only [read, missed, outcome]; rfl
  | compiled read missed outcome => simp only [read, missed, outcome]; rfl

theorem compiled_files_of_fates (options : Options) (tree : FileTree) (paths : List Path) :
    paths.filterMap (recompiledAt options tree) = compiledOf options tree paths :=
  List.filterMap_congr fun path _ => recompiledAt_of_fate options tree path

theorem unchanged_files_of_fates (options : Options) (tree : FileTree) (paths : List Path) :
    (scannedFiles options tree paths).filter (·.content.isNone) =
      unchangedOf options tree paths := by
  unfold scannedFiles successes unchangedOf
  rw [List.filterMap_map, List.filter_filterMap]
  refine filterMap_of_fates (fun path fate => fate.unchanged? path) ?_ paths
  intro path fate met
  rw [Function.comp_apply]
  cases met with
  | unreadable read => rw [scan_unreadable read]; rfl
  | unchanged read known => rw [scan_eq read, if_pos known]; rfl
  | refused read missed outcome => rw [scan_eq read, if_neg missed]; rfl
  | compiled read missed outcome => rw [scan_eq read, if_neg missed]; rfl

theorem unchangedOf_filter (options : Options) (tree : FileTree) (paths : List Path) :
    (unchangedOf options tree paths).filter (·.content.isNone) =
      unchangedOf options tree paths := by
  rw [← unchanged_files_of_fates, List.filter_filter]
  simp only [Bool.and_self]

theorem unread_of_fates (options : Options) (tree : FileTree) (paths : List Path) :
    failures (paths.map fun path => (path.shown, scan options.cache tree path)) =
      paths.filterMap fun path => (fate options tree path).unread? path := by
  unfold failures
  rw [List.filterMap_map]
  refine filterMap_of_fates (fun path fate => fate.unread? path) ?_ paths
  intro path fate met
  rw [Function.comp_apply]
  cases met with
  | unreadable read => rw [scan_unreadable read]; rfl
  | unchanged read known => rw [scan_eq read]; rfl
  | refused read missed outcome => rw [scan_eq read]; rfl
  | compiled read missed outcome => rw [scan_eq read]; rfl

theorem refused_of_fates (options : Options) (tree : FileTree) (paths : List Path) :
    failures ((scannedFiles options tree paths).filterMap (recompileAlone options)) =
      paths.filterMap fun path => (fate options tree path).refused? path := by
  unfold failures scannedFiles successes
  rw [List.filterMap_map, List.filterMap_filterMap, List.filterMap_filterMap]
  refine filterMap_of_fates (fun path fate => fate.refused? path) ?_ paths
  intro path fate met
  rw [Function.comp_apply]
  cases met with
  | unreadable read => rw [scan_unreadable read]; rfl
  | unchanged read known => rw [scan_eq read, if_pos known]; rfl
  | refused read missed outcome =>
    rw [compileFile_eq read] at outcome
    rw [scan_eq read, if_neg missed]
    simp only [Except.toOption, Option.bind_some, recompileAlone, Option.map_some, outcome]
    rfl
  | compiled read missed outcome =>
    rw [compileFile_eq read] at outcome
    rw [scan_eq read, if_neg missed]
    simp only [Except.toOption, Option.bind_some, recompileAlone, Option.map_some, outcome]
    rfl

theorem failures_of_fates (options : Options) (tree : FileTree) (paths : List Path) :
    runFailures options tree paths = failedOf options tree paths := by
  unfold runFailures failedOf
  rw [unread_of_fates, refused_of_fates]

def CompiledDirectory.ofFates (options : Options) (tree : FileTree) (paths : List Path)
    (graph : Graph) : CompiledDirectory :=
  .assemble (unchangedOf options tree paths) (compiledOf options tree paths) graph
    (failedOf options tree paths)

theorem assembled_of_fates (options : Options) (tree : FileTree) (paths : List Path)
    (graph : Graph) :
    CompiledDirectory.assemble (scannedFiles options tree paths) (compiledOf options tree paths)
      graph (failedOf options tree paths) = .ofFates options tree paths graph := by
  unfold CompiledDirectory.ofFates CompiledDirectory.assemble
  rw [unchanged_files_of_fates, unchangedOf_filter]

theorem compileDirectory_of_fates {out : CompiledDirectory} :
    compileDirectory options tree root = .ok out ↔
      ∃ paths graph, tree.discover root options.extension = .ok paths ∧
        (options.failurePolicy = .failFast → failedOf options tree paths = []) ∧
        mergeAll options.topicConflicts {}
          ((compiledOf options tree paths).map (·.script.graph)) = .ok graph ∧
        out = .ofFates options tree paths graph := by
  simp only [compileDirectory_ok_iff, compiled_files_of_fates, failures_of_fates,
    assembled_of_fates]

section Result

variable (options : Options) (tree : FileTree) (paths : List Path) (graph : Graph)

@[simp] theorem ofFates_recompiled :
    (CompiledDirectory.ofFates options tree paths graph).recompiled =
      (compiledOf options tree paths).map (·.path) := rfl

@[simp] theorem ofFates_unchanged :
    (CompiledDirectory.ofFates options tree paths graph).unchanged =
      (unchangedOf options tree paths).map (·.path) := by
  unfold CompiledDirectory.ofFates CompiledDirectory.assemble
  rw [unchangedOf_filter]

@[simp] theorem ofFates_failures :
    (CompiledDirectory.ofFates options tree paths graph).failures =
      failedOf options tree paths := rfl

@[simp] theorem ofFates_checksums :
    (CompiledDirectory.ofFates options tree paths graph).checksums =
      checksumTable (
        (unchangedOf options tree paths).map (fun file => (file.path, file.checksum)) ++
        (compiledOf options tree paths).map fun file => (file.path, file.checksum)) := by
  unfold CompiledDirectory.ofFates CompiledDirectory.assemble
  rw [unchangedOf_filter]

theorem ofFates_base_checksums :
    (CompiledDirectory.ofFates options tree paths graph).knowledgeBase.checksums =
      if (CompiledDirectory.ofFates options tree paths graph).knowledgeBase.isEmpty then ∅
      else (CompiledDirectory.ofFates options tree paths graph).checksums := by
  unfold CompiledDirectory.ofFates CompiledDirectory.assemble
  by_cases incomplete : graph.isIncomplete = true
  · simp only [incomplete, ↓reduceIte]
    rfl
  · have filled : graph.isEmpty = false := by
      simp only [Graph.isIncomplete, Bool.or_eq_true, not_or, Bool.not_eq_true] at incomplete
      simp [Graph.isEmpty, incomplete.1.1]
    simp only [incomplete, KnowledgeBase.isEmpty, filled, Bool.false_eq_true, ↓reduceIte]

end Result

theorem picked_in_order {α β : Type} {pick : Path → Option α} {nameOf : α → β} {name : Path → β}
    (own : ∀ path value, pick path = some value → nameOf value = name path) (paths : List Path) :
    ((paths.filterMap pick).map nameOf).Sublist (paths.map name) := by
  induction paths with
  | nil => exact .slnil
  | cons path rest ih =>
    rw [List.filterMap_cons, List.map_cons]
    cases picked : pick path with
    | none => exact ih.cons _
    | some value =>
      rw [List.map_cons, own path value picked]
      exact ih.cons_cons _

theorem compiled_at_own_path {file : Recompiled}
    (compiled : (fate options tree path).compiled? = some file) : file.path = path.shown := by
  have met := meets_fate options tree path
  generalize fate options tree path = fate at compiled met
  cases met with
  | compiled read missed outcome => cases compiled; rfl
  | _ => cases compiled

theorem unchanged_at_own_path {file : Scanned}
    (unchanged : (fate options tree path).unchanged? path = some file) :
    file.path = path.shown := by
  generalize fate options tree path = fate at unchanged
  cases fate with
  | unchanged checksum => cases unchanged; rfl
  | _ => cases unchanged

theorem fates_partition (options : Options) (tree : FileTree) (paths : List Path) :
    ((compiledOf options tree paths).map (·.path) ++
      (unchangedOf options tree paths).map (·.path) ++
      (failedOf options tree paths).map (·.path)).Perm (paths.map Path.shown) := by
  unfold failedOf
  rw [List.map_append]
  unfold compiledOf unchangedOf
  induction paths with
  | nil => exact .nil
  | cons path rest ih =>
    rw [List.map_cons]
    cases met : fate options tree path with
    | compiled file =>
      have named : file.path = path.shown :=
        @compiled_at_own_path options tree path file (by rw [met]; rfl)
      simp only [List.filterMap_cons, met, Fate.compiled?, Fate.unchanged?, Fate.unread?,
        Fate.refused?, List.map_cons, List.cons_append, named]
      exact ih.cons _
    | unchanged checksum =>
      simp only [List.filterMap_cons, met, Fate.compiled?, Fate.unchanged?, Fate.unread?,
        Fate.refused?, List.map_cons, List.append_assoc, List.cons_append]
      rw [List.append_assoc] at ih
      exact List.perm_middle.trans (ih.cons _)
    | unreadable fault =>
      simp only [List.filterMap_cons, met, Fate.compiled?, Fate.unchanged?, Fate.unread?,
        Fate.refused?, List.map_cons, List.cons_append]
      exact List.perm_middle.trans (ih.cons _)
    | refused error =>
      simp only [List.filterMap_cons, met, Fate.compiled?, Fate.unchanged?, Fate.unread?,
        Fate.refused?, List.map_cons]
      rw [← List.append_assoc] at ih ⊢
      exact List.perm_middle.trans (ih.cons _)

theorem mem_unchangedOf {paths : List Path} {file : Scanned} :
    file ∈ unchangedOf options tree paths ↔ ∃ path ∈ paths, ∃ content,
      tree.read path = .ok content ∧ options.cache[path.shown]? = some (Sha256.hex content) ∧
        file = ⟨path.shown, Sha256.hex content, none⟩ := by
  unfold unchangedOf
  rw [List.mem_filterMap]
  constructor
  · rintro ⟨path, member, met⟩
    have meets := meets_fate options tree path
    generalize fate options tree path = fate at met meets
    cases meets with
    | unchanged read known =>
      cases met
      exact ⟨path, member, _, read, known, rfl⟩
    | _ => cases met
  · rintro ⟨path, member, content, read, known, rfl⟩
    refine ⟨path, member, ?_⟩
    unfold fate
    simp only [read, known, ↓reduceIte, Fate.unchanged?]

theorem mem_compiledOf {paths : List Path} {file : Recompiled} :
    file ∈ compiledOf options tree paths ↔
      ∃ path ∈ paths, recompiledAt options tree path = some file := by
  rw [← compiled_files_of_fates, List.mem_filterMap]

def failsAt (options : Options) (tree : FileTree) (path : Path) : Bool :=
  !isHit options tree path && !(compileFile options tree path).isOk

theorem fails_eq (options : Options) (tree : FileTree) (path : Path) :
    (fate options tree path).fails = failsAt options tree path := by
  have met := meets_fate options tree path
  unfold failsAt isHit
  generalize fate options tree path = fate at met
  cases met with
  | unreadable read => rw [read, compileFile_unreadable read]; rfl
  | unchanged read known => simp [read, known, Fate.fails]
  | refused read missed outcome =>
    simp [read, missed, outcome, Fate.fails, Except.isOk, Except.toBool]
  | compiled read missed outcome =>
    simp [read, missed, outcome, Fate.fails, Except.isOk, Except.toBool]

theorem failed_paths (options : Options) (tree : FileTree) (paths : List Path) :
    ((failedOf options tree paths).map (·.path)).Perm
      ((paths.filter (failsAt options tree)).map Path.shown) := by
  unfold failedOf
  rw [List.map_append]
  induction paths with
  | nil => exact .nil
  | cons path rest ih =>
    have failing := fails_eq options tree path
    cases met : fate options tree path with
    | unreadable fault =>
      rw [met] at failing
      rw [List.filter_cons_of_pos failing.symm]
      simp only [List.filterMap_cons, met, Fate.unread?, Fate.refused?, List.map_cons,
        List.cons_append]
      exact ih.cons _
    | refused error =>
      rw [met] at failing
      rw [List.filter_cons_of_pos failing.symm]
      simp only [List.filterMap_cons, met, Fate.unread?, Fate.refused?, List.map_cons]
      exact List.perm_middle.trans (ih.cons _)
    | _ =>
      rw [met] at failing
      rw [List.filter_cons_of_neg (by rw [← failing]; exact Bool.false_ne_true)]
      simpa only [List.filterMap_cons, met, Fate.unread?, Fate.refused?] using ih

theorem failsAt_iff_named {paths : List Path} (apart : Path.ShownApart paths)
    (member : path ∈ paths) :
    failsAt options tree path = true ↔
      path.shown ∈ (failedOf options tree paths).map (·.path) := by
  rw [(failed_paths options tree paths).mem_iff, List.mem_map]
  constructor
  · intro fails
    exact ⟨path, List.mem_filter.mpr ⟨member, fails⟩, rfl⟩
  · rintro ⟨twin, failing, alike⟩
    obtain ⟨discovered, fails⟩ := List.mem_filter.mp failing
    rwa [← apart twin discovered path member alike]

theorem summed_content {paths : List Path} {graph : Graph} {shown checksum : String}
    (found : (CompiledDirectory.ofFates options tree paths graph).checksums[shown]? =
      some checksum) :
    ∃ path ∈ paths, path.shown = shown ∧
      ∃ content, tree.read path = .ok content ∧ checksum = Sha256.hex content := by
  rw [ofFates_checksums] at found
  rcases List.mem_append.mp (checksumTable_holds found) with listed | listed
  · obtain ⟨file, member, same⟩ := List.mem_map.mp listed
    obtain ⟨path, discovered, content, read, _, rfl⟩ := mem_unchangedOf.mp member
    cases same
    exact ⟨path, discovered, rfl, content, read, rfl⟩
  · obtain ⟨file, member, same⟩ := List.mem_map.mp listed
    obtain ⟨path, discovered, given⟩ := mem_compiledOf.mp member
    obtain ⟨own, _, _, content, read, checksum⟩ := recompiledAt_eq_some given
    cases same
    exact ⟨path, discovered, own.symm, content, read, checksum⟩

theorem summed_paths (paths : List Path) (graph : Graph) (shown : String) :
    shown ∈ (CompiledDirectory.ofFates options tree paths graph).checksums ↔
      shown ∈ (compiledOf options tree paths).map (·.path) ∨
        shown ∈ (unchangedOf options tree paths).map (·.path) := by
  rw [← ofFates_unchanged options tree paths graph]
  exact checksums_cover_run _ _ _ _ shown

/-- The books of a run, in which a script goes by what is shown of its path. -/
structure Books (tree : FileTree) (paths : List Path) (out : CompiledDirectory) : Prop where
  ascending : paths.Pairwise fun first second => first.steps < second.steps
  partition :
    (out.recompiled ++ out.unchanged ++ out.failures.map (·.path)).Perm (paths.map Path.shown)
  recompiled_in_order : out.recompiled.Sublist (paths.map Path.shown)
  unchanged_in_order : out.unchanged.Sublist (paths.map Path.shown)
  summed : ∀ shown, shown ∈ out.checksums ↔ shown ∈ out.recompiled ∨ shown ∈ out.unchanged
  some_sum : ∀ shown checksum : String, out.checksums[shown]? = some checksum →
    ∃ path ∈ paths, path.shown = shown ∧
      ∃ content, tree.read path = .ok content ∧ checksum = Sha256.hex content
  counted : out.files.map (·.path) = out.recompiled
  base : out.knowledgeBase.checksums = if out.knowledgeBase.isEmpty then ∅ else out.checksums
  /-- In particular a path that only the cache has. -/
  nothing_else : ∀ shown, shown ∉ paths.map Path.shown →
    shown ∉ out.recompiled ∧ shown ∉ out.unchanged ∧ shown ∉ out.failures.map (·.path) ∧
      shown ∉ out.checksums ∧ shown ∉ out.knowledgeBase.checksums

/-- Books in which each of the discovered scripts has a place of its own. -/
structure Accounts (options : Options) (tree : FileTree) (paths : List Path)
    (out : CompiledDirectory) : Prop extends Books tree paths out where
  once : (out.recompiled ++ out.unchanged ++ out.failures.map (·.path)).Nodup
  unchanged_iff : ∀ path ∈ paths, ∀ content, tree.read path = .ok content →
    (path.shown ∈ out.unchanged ↔ options.cache[path.shown]? = some (Sha256.hex content))
  sums : ∀ path ∈ paths, ∀ checksum, out.checksums[path.shown]? = some checksum →
    ∃ content, tree.read path = .ok content ∧ checksum = Sha256.hex content

theorem fates_in_books {paths : List Path} (graph : Graph)
    (ascending : paths.Pairwise fun first second => first.steps < second.steps) :
    Books tree paths (.ofFates options tree paths graph) := by
  have listed := fates_partition options tree paths
  refine ⟨ascending, ?_, ?_, ?_, ?_, ?_, ?_, ofFates_base_checksums _ _ _ _, ?_⟩
  · simpa using listed
  · exact picked_in_order (fun _ _ => compiled_at_own_path) paths
  · rw [ofFates_unchanged]
    exact picked_in_order (fun _ _ => unchanged_at_own_path) paths
  · intro shown
    rw [ofFates_unchanged]
    exact summed_paths paths graph shown
  · intro shown checksum found
    exact summed_content found
  · unfold CompiledDirectory.ofFates CompiledDirectory.assemble
    rw [List.map_map]
    rfl
  · intro shown absent
    simp only [← listed.mem_iff, List.mem_append, not_or] at absent
    have unsummed : shown ∉ (CompiledDirectory.ofFates options tree paths graph).checksums := by
      rw [summed_paths]
      exact not_or.mpr absent.1
    refine ⟨absent.1.1, by simpa using absent.1.2, absent.2, unsummed, ?_⟩
    rw [ofFates_base_checksums]
    split
    · exact Std.ExtTreeMap.not_mem_empty
    · exact unsummed

theorem unchanged_iff_hit {paths : List Path} {content : List UInt8}
    (apart : Path.ShownApart paths) (member : path ∈ paths) (read : tree.read path = .ok content) :
    path.shown ∈ (unchangedOf options tree paths).map (·.path) ↔
      options.cache[path.shown]? = some (Sha256.hex content) := by
  rw [List.mem_map]
  constructor
  · rintro ⟨file, unchanged, named⟩
    obtain ⟨twin, discovered, held, again, known, rfl⟩ := mem_unchangedOf.mp unchanged
    cases apart twin discovered path member named
    cases again.symm.trans read
    exact known
  · intro known
    exact ⟨_, mem_unchangedOf.mpr ⟨path, member, content, read, known, rfl⟩, rfl⟩

theorem accounts_iff {paths : List Path} (graph : Graph)
    (ascending : paths.Pairwise fun first second => first.steps < second.steps) :
    Accounts options tree paths (.ofFates options tree paths graph) ↔ Path.ShownApart paths := by
  have books := @fates_in_books options tree paths graph ascending
  rw [Path.shownApart_iff (FileTree.ascending_nodup ascending), ← books.partition.nodup_iff]
  constructor
  · exact fun accounts => accounts.once
  · intro once
    have apart : Path.ShownApart paths := by
      rwa [Path.shownApart_iff (FileTree.ascending_nodup ascending), ← books.partition.nodup_iff]
    refine ⟨books, once, ?_, ?_⟩
    · intro path member content read
      rw [ofFates_unchanged]
      exact unchanged_iff_hit apart member read
    · intro path member checksum found
      obtain ⟨twin, discovered, alike, summed⟩ := books.some_sum _ checksum found
      rwa [← apart twin discovered path member alike]

/-- A directory run books every script that it discovers, by what is shown of its path. It accounts
for each of them exactly if no two of the discovered paths look alike. -/
theorem scripts_are_accounted_for_iff {out : CompiledDirectory}
    (ok : compileDirectory options tree root = .ok out) :
    ∃ paths, tree.discover root options.extension = .ok paths ∧ Books tree paths out ∧
      (Accounts options tree paths out ↔ Path.ShownApart paths) := by
  obtain ⟨paths, graph, discovered, _, _, rfl⟩ := compileDirectory_of_fates.mp ok
  have ascending := FileTree.discovered_ascending discovered
  exact ⟨paths, discovered, fates_in_books graph ascending, accounts_iff graph ascending⟩

def mixedTree : FileTree := sampleTree.put (Path.steps "chat/c.ss") (.file (Text.encode "- hello"))

def mixedOptions : Options where
  cache := checksumTable [("chat/b.ss", Sha256.hex (Text.encode "+ ho\n- hey")), ("chat/d.ss", "0")]
  failurePolicy := .skip

theorem mixedTree_compiles : ∃ out, compileDirectory mixedOptions mixedTree "chat" = .ok out ∧
    out.recompiled = ["chat/a.ss"] ∧ out.unchanged = ["chat/b.ss"] ∧
    out.failures.map (·.path) = ["chat/c.ss"] := by
  have evaluated : (compileDirectory mixedOptions mixedTree "chat").toOption.any (fun out =>
      decide (out.recompiled = ["chat/a.ss"] ∧ out.unchanged = ["chat/b.ss"] ∧
        out.failures.map (·.path) = ["chat/c.ss"])) = true := by
    decide +kernel
  obtain ⟨out, ok, checked⟩ := ok_of_any evaluated
  exact ⟨out, ok, of_decide_eq_true checked⟩

def mixedPaths : List Path := ["chat/a.ss", "chat/b.ss", "chat/c.ss"]

theorem mixed_paths_shown_apart : Path.ShownApart mixedPaths := by
  apply Path.shownApart_of_text
  simp [mixedPaths]

theorem mixed_scripts_are_accounted_for : ∃ out,
    compileDirectory mixedOptions mixedTree "chat" = .ok out ∧
    mixedTree.discover "chat" "ss" = .ok mixedPaths ∧ "chat/d.ss" ∈ mixedOptions.cache ∧
    Accounts mixedOptions mixedTree mixedPaths out := by
  obtain ⟨out, ok, _⟩ := mixedTree_compiles
  obtain ⟨paths, discovered, _, accounts⟩ := scripts_are_accounted_for_iff ok
  cases (show mixedTree.discover "chat" "ss" = .ok mixedPaths by rfl).symm.trans discovered
  exact ⟨out, ok, discovered, mem_checksumTable.mpr (by simp),
    accounts.mpr mixed_paths_shown_apart⟩

/-- Two scripts that look alike are listed under one name, and the checksum there is that of one. -/
theorem odd_scripts_are_not_accounted_for : ∃ out,
    compileDirectory {} twoOdd "chat" = .ok out ∧ twoOdd.discover "chat" "ss" = .ok twoOddPaths ∧
    out.recompiled = ["chat/a.ss", (oddPath 0xFE).shown, (oddPath 0xFE).shown] ∧
    out.checksums[(oddPath 0xFE).shown]? = some (Sha256.hex blank) ∧
    twoOdd.read (oddPath 0xFE) = .ok extraTopic ∧ Sha256.hex extraTopic ≠ Sha256.hex blank ∧
    ¬ Accounts {} twoOdd twoOddPaths out := by
  obtain ⟨out, ok, _, listed, summed, _⟩ := odd_scripts_compile
  refine ⟨out, ok, odd_scripts_discovered.2, ?_, summed, by rfl, odd_checksums_differ, ?_⟩
  · rw [listed]
    decide
  · intro accounts
    obtain ⟨content, read, same⟩ := accounts.sums (oddPath 0xFE) (by decide) _ summed
    cases (show twoOdd.read (oddPath 0xFE) = .ok extraTopic by rfl).symm.trans read
    exact odd_checksums_differ same.symm

end DialogueScript
