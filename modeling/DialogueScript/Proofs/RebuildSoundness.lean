import DialogueScript.Proofs.DirectoryMerge
import Mathlib.Data.List.Perm.Subperm

/- Rebuilding. If a cache of checksums calls a tree up to date, compiling that tree anew gives the
   knowledge base that the checksums came with, provided that the scripts of the two trees can be
   told apart by what is shown of their paths. They are compared only by number and by checksum, and
   of scripts that look alike only the last has its checksum in the cache. -/
namespace DialogueScript
open Std

/-- A table that has no entries but those of another one, and as many, is the other one. -/
theorem table_of_same_size {small large : ExtTreeMap String β}
    (within : ∀ (key : String) value, small[key]? = some value → large[key]? = some value)
    (count : large.size ≤ small.size) : small = large := by
  have among : small.keys ⊆ large.keys := by
    intro key member
    obtain ⟨value, found⟩ := mem_iff_lookup.mp (ExtTreeMap.mem_keys.mp member)
    exact ExtTreeMap.mem_keys.mpr (mem_iff_lookup.mpr ⟨value, within key value found⟩)
  have same : small.keys.Perm large.keys := by
    apply (List.subperm_of_subset ExtTreeMap.nodup_keys among).perm_of_length_le
    rw [ExtTreeMap.length_keys, ExtTreeMap.length_keys]
    exact count
  apply ExtTreeMap.ext_getElem?
  intro key
  cases found : small[key]? with
  | some value => exact (within key value found).symm
  | none =>
    have absent : key ∉ large := by
      intro held
      have listed := same.mem_iff.mpr (ExtTreeMap.mem_keys.mpr held)
      exact not_mem_iff_lookup.mpr found (ExtTreeMap.mem_keys.mp listed)
    exact (not_mem_iff_lookup.mp absent).symm

theorem added_checksums {entries : List (String × String)} {table : Checksums}
    (distinct : (entries.map (·.1)).Nodup) (fresh : ∀ entry ∈ entries, entry.1 ∉ table) :
    (∀ path checksum : String,
      (entries.foldl (fun table entry => table.insert entry.1 entry.2) table)[path]? =
        some checksum ↔ table[path]? = some checksum ∨ (path, checksum) ∈ entries) ∧
    (entries.foldl (fun table entry => table.insert entry.1 entry.2) table).size =
      table.size + entries.length := by
  induction entries generalizing table with
  | nil => simp
  | cons entry rest ih =>
    obtain ⟨key, value⟩ := entry
    simp only [List.map_cons, List.nodup_cons, List.mem_cons, forall_eq_or_imp] at distinct fresh
    have still : ∀ entry ∈ rest, entry.1 ∉ table.insert key value := by
      intro entry member
      rw [ExtTreeMap.mem_insert, Std.compare_eq_iff_eq, not_or]
      exact ⟨fun same => distinct.1 (List.mem_map.mpr ⟨entry, member, same.symm⟩),
        fresh.2 entry member⟩
    obtain ⟨lookups, size⟩ := ih distinct.2 still
    refine ⟨?_, ?_⟩
    · intro path checksum
      rw [List.foldl_cons, lookups, lookup_insert]
      by_cases same : key = path
      · subst same
        simp [not_mem_iff_lookup.mp fresh.1, eq_comm]
      · simp [same, Ne.symm same]
    · have absent : ¬ table.contains key = true := fun held =>
        fresh.1 (ExtTreeMap.mem_iff_contains.mpr held)
      rw [List.foldl_cons, size, ExtTreeMap.size_insert, if_neg absent, List.length_cons]
      omega

theorem checksumTable_spec {entries : List (String × String)}
    (distinct : (entries.map (·.1)).Nodup) :
    (∀ path checksum : String,
      (checksumTable entries)[path]? = some checksum ↔ (path, checksum) ∈ entries) ∧
    (checksumTable entries).size = entries.length := by
  obtain ⟨lookups, size⟩ := @added_checksums entries ∅ distinct (by simp)
  exact ⟨fun path checksum => by simpa [checksumTable] using lookups path checksum,
    by simpa [checksumTable] using size⟩

theorem checksumTable_holds {entries : List (String × String)} {path checksum : String}
    (found : (checksumTable entries)[path]? = some checksum) : (path, checksum) ∈ entries := by
  have added : ∀ table : Checksums,
      (entries.foldl (fun table entry => table.insert entry.1 entry.2) table)[path]? =
        some checksum → table[path]? = some checksum ∨ (path, checksum) ∈ entries := by
    clear found
    induction entries with
    | nil => exact fun _ held => .inl held
    | cons entry rest ih =>
      intro table held
      rcases ih (table.insert entry.1 entry.2) held with before | later
      · by_cases same : entry.1 = path
        · subst same
          have last : entry.2 = checksum := by simpa [lookup_insert] using before
          exact .inr (last ▸ List.mem_cons_self)
        · exact .inl (by simpa [lookup_insert, same] using before)
      · exact .inr (List.mem_cons_of_mem _ later)
  simpa using added ∅ found

theorem checksumTable_size_iff {entries : List (String × String)} :
    (checksumTable entries).size = entries.length ↔ (entries.map (·.1)).Nodup := by
  constructor
  · intro count
    have among : (checksumTable entries).keys ⊆ entries.map (·.1) :=
      fun _ member => mem_checksumTable.mp (ExtTreeMap.mem_keys.mp member)
    have same : (checksumTable entries).keys.Perm (entries.map (·.1)) := by
      apply (List.subperm_of_subset ExtTreeMap.nodup_keys among).perm_of_length_le
      exact Nat.le_of_eq (by rw [List.length_map, ExtTreeMap.length_keys, count])
    exact same.nodup_iff.mp ExtTreeMap.nodup_keys
  · intro distinct
    exact (checksumTable_spec distinct).2

variable {options : Options} {tree other : FileTree} {root path : Path} {paths : List Path}

theorem rebuilt_anew {out : CompiledDirectory}
    (built : rebuildDirectory options tree root = .ok (.compiled out)) :
    compileDirectory { options with cache := ∅ } tree root = .ok out := by
  have anew : ∀ {result}, compileAnew options tree root = .ok (.compiled result) →
      compileDirectory { options with cache := ∅ } tree root = .ok result := by
    intro result ok
    obtain ⟨value, compiled, same⟩ := map_ok_iff.mp ok
    rwa [← Rebuild.compiled.inj same]
  simp only [rebuildDirectory] at built
  split at built
  · exact anew built
  · split at built
    · simp at built
    · split at built
      · simp at built
      · exact anew built

theorem without_cache (empty : options.cache = ∅) : { options with cache := ∅ } = options := by
  cases options
  simp only at empty
  rw [empty]

theorem rebuild_of_empty_cache {out : CompiledDirectory} (empty : options.cache = ∅)
    (ok : compileDirectory options tree root = .ok out) :
    rebuildDirectory options tree root = .ok (.compiled out) := by
  have nothing : options.cache.isEmpty = true := by
    rw [empty]
    exact ExtTreeMap.isEmpty_empty
  simp only [rebuildDirectory, nothing, ↓reduceIte, compileAnew, without_cache empty, ok,
    Except.map]

def IsCurrent (cache : Checksums) (tree : FileTree) (paths : List Path) : Prop :=
  paths.length = cache.size ∧ ∀ path ∈ paths, ∃ content, tree.read path = .ok content ∧
    cache[path.shown]? = some (Sha256.hex content)

theorem isCurrent_iff_counted {cache : Checksums} :
    isCurrent cache tree paths = true ↔ IsCurrent cache tree paths := by
  simp only [isCurrent, IsCurrent, Bool.and_eq_true, beq_iff_eq, List.all_eq_true]
  apply and_congr_right
  intro _
  apply forall₂_congr
  intro path _
  cases read : tree.read path with
  | error fault => simp [@scan_unreadable { cache } tree path fault read]
  | ok content =>
    rw [@scan_eq { cache } tree path content read]
    by_cases known : cache[path.shown]? = some (Sha256.hex content)
    · simp [known]
    · simp [known]

theorem compiled_anew_is_not_up_to_date : compileAnew options tree root ≠ .ok .upToDate := by
  intro ok
  obtain ⟨_, _, same⟩ := map_ok_iff.mp ok
  cases same

theorem rebuild_of_discovered (discovered : tree.discover root options.extension = .ok paths) :
    options.cache ≠ ∅ ∧ IsCurrent options.cache tree paths ∧
        rebuildDirectory options tree root = .ok .upToDate ∨
      ¬ (options.cache ≠ ∅ ∧ IsCurrent options.cache tree paths) ∧
        rebuildDirectory options tree root = compileAnew options tree root := by
  rw [← isCurrent_iff_counted]
  by_cases empty : options.cache = ∅
  · right
    simp [rebuildDirectory, empty]
  · have something : options.cache.isEmpty = false := by
      rw [Bool.eq_false_iff]
      intro nothing
      exact empty (ExtTreeMap.isEmpty_iff.mp nothing)
    by_cases current : isCurrent options.cache tree paths = true
    · left
      simp [rebuildDirectory, something, empty, discovered, current]
    · right
      simp [rebuildDirectory, something, discovered, current]

theorem up_to_date_iff (discovered : tree.discover root options.extension = .ok paths) :
    rebuildDirectory options tree root = .ok .upToDate ↔
      options.cache ≠ ∅ ∧ IsCurrent options.cache tree paths := by
  rcases rebuild_of_discovered discovered with ⟨filled, current, done⟩ | ⟨changed, anew⟩
  · simp only [done, true_iff]
    exact ⟨filled, current⟩
  · simp only [anew, compiled_anew_is_not_up_to_date, false_iff]
    exact changed

theorem nothing_unchanged (empty : options.cache = ∅) (paths : List Path) :
    (scannedFiles options tree paths).filter (·.content.isNone) = [] := by
  simp only [List.filter_eq_nil_iff, scannedFiles, successes, List.mem_filterMap, List.mem_map]
  rintro file ⟨_, ⟨path, _, rfl⟩, scanned⟩
  cases readable : tree.read path with
  | error fault => simp [scan_unreadable readable, Except.toOption] at scanned
  | ok content =>
    simp only [scan_eq readable, Except.toOption, Option.some.injEq] at scanned
    simp [← scanned, empty]

theorem no_failures_if_all_recompiled
    (all : ∀ path ∈ paths, ∃ file, recompiledAt options tree path = some file) :
    runFailures options tree paths = [] := by
  have read : ∀ path ∈ paths, ∃ content script, tree.read path = .ok content ∧
      scan options.cache tree path = .ok ⟨path.shown, Sha256.hex content, some content⟩ ∧
      (compileBytes options options.expander path.shown content).1 = .ok script := by
    intro path member
    obtain ⟨file, found⟩ := all path member
    obtain ⟨_, missed, compiled, content, readable, _⟩ := recompiledAt_eq_some found
    rw [compileFile_eq readable] at compiled
    simp only [isHit, readable, decide_eq_false_iff_not] at missed
    exact ⟨content, file.script, readable, by rw [scan_eq readable, if_neg missed], compiled⟩
  simp only [runFailures, failures, List.append_eq_nil_iff, List.filterMap_eq_nil_iff]
  constructor
  · intro outcome member
    obtain ⟨path, discovered, rfl⟩ := List.mem_map.mp member
    obtain ⟨content, _, _, scanned, _⟩ := read path discovered
    simp [scanned, Graph.failure?]
  · intro outcome member
    obtain ⟨file, found, alone⟩ := List.mem_filterMap.mp member
    simp only [scannedFiles, successes, List.mem_filterMap, List.mem_map] at found
    obtain ⟨_, ⟨path, discovered, rfl⟩, opened⟩ := found
    obtain ⟨content, script, _, scanned, compiled⟩ := read path discovered
    simp only [scanned, Except.toOption, Option.some.injEq] at opened
    simp only [← opened, recompileAlone, Option.map_some, Option.some.injEq, compiled] at alone
    simp [← alone, Except.map, Graph.failure?]

theorem recompiledAt_congr {twin : Path} (alike : path.shown = twin.shown)
    (same : tree.read path = other.read twin) :
    recompiledAt options tree path = recompiledAt options other twin := by
  simp only [recompiledAt, compileFile, readFile, same, alike]

def baseOf (files : List Recompiled) (graph : Graph) : KnowledgeBase :=
  if graph.isIncomplete then .empty
  else { graph, checksums := checksumTable (files.map fun file => (file.path, file.checksum)) }

theorem base_without_cache (empty : options.cache = ∅) (paths : List Path)
    (files : List Recompiled) (graph : Graph) (failed : List FileFailure) :
    (CompiledDirectory.assemble (scannedFiles options tree paths) files graph
      failed).knowledgeBase = baseOf files graph := by
  simp only [CompiledDirectory.assemble, nothing_unchanged empty, baseOf, List.map_nil,
    List.nil_append]

theorem base_of_run {out : CompiledDirectory} (empty : options.cache = ∅)
    (ok : compileDirectory options tree root = .ok out) :
    ∃ paths graph, tree.discover root options.extension = .ok paths ∧
      mergeAll options.topicConflicts {}
        ((paths.filterMap (recompiledAt options tree)).map (·.script.graph)) = .ok graph ∧
      out.knowledgeBase = baseOf (paths.filterMap (recompiledAt options tree)) graph := by
  obtain ⟨paths, graph, discovered, _, merged, rfl⟩ := compileDirectory_ok_iff.mp ok
  exact ⟨paths, graph, discovered, merged, base_without_cache empty paths _ graph _⟩

theorem run_without_failures {graph : Graph} (empty : options.cache = ∅)
    (discovered : tree.discover root options.extension = .ok paths)
    (all : ∀ path ∈ paths, ∃ file, recompiledAt options tree path = some file)
    (merged : mergeAll options.topicConflicts {}
      ((paths.filterMap (recompiledAt options tree)).map (·.script.graph)) = .ok graph) :
    ∃ out, compileDirectory options tree root = .ok out ∧ out.failures = [] ∧
      out.knowledgeBase = baseOf (paths.filterMap (recompiledAt options tree)) graph := by
  have smooth := no_failures_if_all_recompiled all
  exact ⟨_, compileDirectory_ok_iff.mpr ⟨paths, graph, discovered, fun _ => smooth, merged, rfl⟩,
    smooth, base_without_cache empty paths _ graph _⟩

theorem base_filled {files : List Recompiled} {graph : Graph}
    (filled : (baseOf files graph).isEmpty = false) :
    (baseOf files graph).graph = graph ∧ (baseOf files graph).checksums =
      checksumTable (files.map fun file => (file.path, file.checksum)) := by
  simp only [baseOf] at filled ⊢
  split
  · rename_i incomplete
    simp [incomplete, KnowledgeBase.isEmpty, KnowledgeBase.empty, Graph.isEmpty] at filled
  · exact ⟨rfl, rfl⟩

theorem all_recompiled_paths
    (all : ∀ path ∈ paths, ∃ file, recompiledAt options tree path = some file) :
    (paths.filterMap (recompiledAt options tree)).map (·.path) = paths.map Path.shown := by
  rw [recompiled_paths, List.filter_eq_self.mpr]
  exact fun path member => isRecompiled_iff.mpr (all path member)

/-- Ascending paths that are as many as the paths of another ascending list, and are all among them,
are that list. -/
theorem ascending_unique {paths others : List Path}
    (first : paths.Pairwise fun a b => a.steps < b.steps)
    (second : others.Pairwise fun a b => a.steps < b.steps)
    (among : ∀ path ∈ paths, path ∈ others) (count : paths.length = others.length) :
    paths = others := by
  have same : paths.Perm others :=
    (List.subperm_of_subset (FileTree.ascending_nodup first) among).perm_of_length_le
      (Nat.le_of_eq count.symm)
  exact same.eq_of_pairwise (fun _ _ _ _ less more => absurd more (List.lt_asymm less)) first second

/-- Compiling the tree anew gives this knowledge base, and no script fails. -/
def CompilesTo (options : Options) (tree : FileTree) (root : Path) (base : KnowledgeBase) : Prop :=
  ∃ out, compileDirectory { options with cache := ∅ } tree root = .ok out ∧ out.failures = [] ∧
    out.knowledgeBase = base

def entriesOf (options : Options) (tree : FileTree) (paths : List Path) : List (String × String) :=
  (paths.filterMap (recompiledAt options tree)).map fun file => (file.path, file.checksum)

section TwoStates

variable {before after : FileTree} {later : List Path} {twin : Path}

/-- Scripts of two states that look alike and have one checksum have one content. -/
def ChecksumsTell (before after : FileTree) (paths later : List Path) : Prop :=
  ∀ path ∈ paths, ∀ twin ∈ later, path.shown = twin.shown → ∀ first second,
    before.read path = .ok first → after.read twin = .ok second →
      Sha256.hex first = Sha256.hex second → first = second

theorem same_checksum_same_script {content : List UInt8} (member : twin ∈ later)
    (reads : after.read twin = .ok content)
    (known : (twin.shown, Sha256.hex content) ∈ entriesOf options before paths)
    (told_apart : ChecksumsTell before after paths later) :
    ∃ path ∈ paths, path.shown = twin.shown ∧ isRecompiled options before path = true ∧
      recompiledAt options after twin = recompiledAt options before path := by
  obtain ⟨file, compiled, entry⟩ := List.mem_map.mp known
  obtain ⟨path, discovered, given⟩ := List.mem_filterMap.mp compiled
  obtain ⟨own, _, _, held, readable, checksum⟩ := recompiledAt_eq_some given
  simp only [Prod.mk.injEq] at entry
  have alike : path.shown = twin.shown := own.symm.trans entry.1
  have unchanged : held = content :=
    told_apart path discovered twin member alike held content readable reads
      (checksum.symm.trans entry.2)
  exact ⟨path, discovered, alike, isRecompiled_iff.mpr ⟨file, given⟩,
    recompiledAt_congr alike.symm (by rw [reads, readable, unchanged])⟩

/-- If every script of a tree compiles and its entry is in the table of a knowledge base that has no
others, compiling the tree anew gives that knowledge base exactly if no two scripts look alike and
the graphs merge to the same. -/
theorem compilesTo_iff {files : List Recompiled} {graph : Graph} (empty : options.cache = ∅)
    (filled : (baseOf files graph).isEmpty = false)
    (found : after.discover root options.extension = .ok later)
    (all : ∀ path ∈ later, ∃ file, recompiledAt options after path = some file)
    (known : ∀ path ∈ later, ∃ content, after.read path = .ok content ∧
      (baseOf files graph).checksums[path.shown]? = some (Sha256.hex content))
    (count : later.length = (baseOf files graph).checksums.size) :
    CompilesTo options after root (baseOf files graph) ↔
      (later.map Path.shown).Nodup ∧ mergeAll options.topicConflicts {}
        ((later.filterMap (recompiledAt options after)).map (·.script.graph)) = .ok graph := by
  have entered : (entriesOf options after later).map (·.1) = later.map Path.shown := by
    rw [← all_recompiled_paths all, entriesOf, List.map_map]
    rfl
  have many : (entriesOf options after later).length = later.length := by
    rw [← List.length_map (·.1), entered, List.length_map]
  rw [CompilesTo, without_cache empty]
  constructor
  · rintro ⟨out, ok, _, base⟩
    obtain ⟨paths, result, again, merged, given⟩ := base_of_run empty ok
    cases found.symm.trans again
    rw [given] at base
    have full : (baseOf (later.filterMap (recompiledAt options after)) result).isEmpty = false := by
      rw [base, filled]
    have sizes : (checksumTable (entriesOf options after later)).size =
        (entriesOf options after later).length := by
      rw [many, count, ← base, (base_filled full).2, entriesOf]
    rw [← entered, ← checksumTable_size_iff]
    refine ⟨sizes, ?_⟩
    rw [merged, ← (base_filled full).1, base, (base_filled filled).1]
  · rintro ⟨distinct, merged⟩
    obtain ⟨out, ok, smooth, base⟩ := run_without_failures empty found all merged
    refine ⟨out, ok, smooth, ?_⟩
    have tables : checksumTable (entriesOf options after later) =
        checksumTable (files.map fun file => (file.path, file.checksum)) := by
      rw [← (base_filled filled).2]
      apply table_of_same_size
      · intro shown checksum entry
        obtain ⟨file, compiled, pair⟩ := List.mem_map.mp (checksumTable_holds entry)
        obtain ⟨path, member, given⟩ := List.mem_filterMap.mp compiled
        obtain ⟨own, _, _, content, readable, sum⟩ := recompiledAt_eq_some given
        obtain ⟨now, reads, held⟩ := known path member
        cases readable.symm.trans reads
        simp only [Prod.mk.injEq] at pair
        rwa [← pair.1, ← pair.2, own, sum]
      · have size := checksumTable_size_iff.mpr (entered ▸ distinct)
        exact Nat.le_of_eq (by rw [size, many, count])
    rw [base, baseOf, baseOf, ← tables, entriesOf]

/-- If no path of the one state looks like another path of either, the scripts that are up to date
are the ones that were compiled. -/
theorem same_scripts_if_shown_apart
    (apart : Path.ShownApart (paths ++ later)) (distinct : paths.Nodup)
    (ordered : paths.Pairwise fun a b => a.steps < b.steps)
    (ordered_later : later.Pairwise fun a b => a.steps < b.steps)
    (count : later.length = (checksumTable (entriesOf options before paths)).size)
    (known : ∀ twin ∈ later, ∃ path ∈ paths, path.shown = twin.shown ∧
      isRecompiled options before path = true ∧
      recompiledAt options after twin = recompiledAt options before path) :
    later.filterMap (recompiledAt options after) =
      paths.filterMap (recompiledAt options before) := by
  have own : ∀ path ∈ later, path ∈ paths.filter (isRecompiled options before) ∧
      recompiledAt options after path = recompiledAt options before path := by
    intro twin member
    obtain ⟨path, discovered, alike, listed, given⟩ := known twin member
    cases apart path (List.mem_append_left _ discovered) twin (List.mem_append_right _ member) alike
    exact ⟨List.mem_filter.mpr ⟨discovered, listed⟩, given⟩
  have names : (entriesOf options before paths).map (·.1) =
      (paths.filter (isRecompiled options before)).map Path.shown := by
    rw [← recompiled_paths, entriesOf, List.map_map]
    rfl
  have told : ((entriesOf options before paths).map (·.1)).Nodup := by
    rw [names]
    refine (Path.shownApart_iff (distinct.filter _)).mp ?_
    intro first one second another
    exact apart first (List.mem_append_left _ (List.mem_of_mem_filter one)) second
      (List.mem_append_left _ (List.mem_of_mem_filter another))
  have paths_agree : later = paths.filter (isRecompiled options before) := by
    refine ascending_unique ordered_later (ordered.filter _)
      (fun path member => (own path member).1) ?_
    rw [count, checksumTable_size_iff.mpr told, ← List.length_map (·.1), names, List.length_map]
  calc later.filterMap (recompiledAt options after)
    _ = later.filterMap (recompiledAt options before) :=
      List.filterMap_congr fun path member => (own path member).2
    _ = paths.filterMap (recompiledAt options before) := by
      rw [paths_agree, List.filterMap_filter]
      apply List.filterMap_congr
      intro path _
      split
      · rfl
      · rename_i out
        rw [isRecompiled_iff] at out
        exact (Option.eq_none_iff_forall_ne_some.mpr (by simpa using out)).symm

/-- Where a rebuild calls a knowledge base up to date, every script compiles. Compiling anew gives
the same knowledge base exactly if no two scripts look alike and their graphs merge to the same
graph. It does so wherever no path of the two states looks like another. -/
theorem up_to_date_is_sound_if_shown_apart {out : CompiledDirectory}
    (discovered : before.discover root options.extension = .ok paths)
    (found : after.discover root options.extension = .ok later)
    (built : rebuildDirectory options before root = .ok (.compiled out))
    (filled : out.knowledgeBase.isEmpty = false)
    (current : rebuildDirectory { options with cache := out.knowledgeBase.checksums } after root =
      .ok .upToDate)
    (told_apart : ChecksumsTell before after paths later) :
    ∃ scripts,
      List.Forall₂ (fun path script => compileFile options after path = .ok script) later scripts ∧
      (CompilesTo options after root out.knowledgeBase ↔
        (later.map Path.shown).Nodup ∧ mergeAll options.topicConflicts {}
          (scripts.map (·.graph)) = .ok out.knowledgeBase.graph) ∧
      (Path.ShownApart (paths ++ later) → CompilesTo options after root out.knowledgeBase) := by
  obtain ⟨_, graph, again, merged, base⟩ := base_of_run rfl (rebuilt_anew built)
  cases discovered.symm.trans again
  obtain ⟨_, count, known⟩ :=
    (@up_to_date_iff { options with cache := out.knowledgeBase.checksums } after root later
      found).mp current
  dsimp only at count known
  let bare : Options := { options with cache := ∅ }
  rw [base] at filled count known ⊢
  have scripts : ∀ twin ∈ later, ∃ path ∈ paths, path.shown = twin.shown ∧
      isRecompiled bare before path = true ∧
      recompiledAt bare after twin = recompiledAt bare before path := by
    intro twin member
    obtain ⟨content, reads, entry⟩ := known twin member
    rw [(base_filled filled).2] at entry
    exact same_checksum_same_script member reads (checksumTable_holds entry) told_apart
  have all : ∀ path ∈ later, ∃ file, recompiledAt bare after path = some file := by
    intro twin member
    obtain ⟨path, _, _, listed, given⟩ := scripts twin member
    rw [given]
    exact isRecompiled_iff.mp listed
  have exact_when : CompilesTo options after root _ ↔ _ :=
    @compilesTo_iff bare root after later _ graph rfl filled found all known count
  have each := @recompiled_scripts bare after later
  rw [List.filter_eq_self.mpr fun path member => isRecompiled_iff.mpr (all path member)] at each
  refine ⟨_, each, ?_, ?_⟩
  · rw [exact_when, (base_filled filled).1, List.map_map]
    rfl
  · intro apart
    have ordered := FileTree.discovered_ascending discovered
    rw [(base_filled filled).2] at count
    have same := same_scripts_if_shown_apart apart (FileTree.ascending_nodup ordered) ordered
      (FileTree.discovered_ascending found) count scripts
    refine exact_when.mpr ⟨?_, by rw [same]; exact merged⟩
    rw [← Path.shownApart_iff (FileTree.ascending_nodup (FileTree.discovered_ascending found))]
    intro first one second another
    exact apart first (List.mem_append_right _ one) second (List.mem_append_right _ another)

theorem sample_up_to_date_is_sound : ∃ out,
    rebuildDirectory {} sampleTree "chat" = .ok (.compiled out) ∧
    out.knowledgeBase.isEmpty = false ∧
    rebuildDirectory { cache := out.knowledgeBase.checksums } sampleTree "chat" = .ok .upToDate ∧
    CompilesTo {} sampleTree "chat" out.knowledgeBase := by
  obtain ⟨out, ok, filled, _, current⟩ := sampleTree_compiles
  have built : rebuildDirectory {} sampleTree "chat" = .ok (.compiled out) :=
    rebuild_of_empty_cache rfl ok
  have apart : Path.ShownApart (samplePaths ++ samplePaths) := by
    simpa [Path.ShownApart] using sample_paths_shown_apart
  have told_apart : ChecksumsTell sampleTree sampleTree samplePaths samplePaths := by
    intro path one twin another alike first second reads again _
    cases apart path (List.mem_append_left _ one) twin (List.mem_append_right _ another) alike
    exact Except.ok.inj (reads.symm.trans again)
  have discovered := sample_scripts_discovered.1
  obtain ⟨_, _, _, sound⟩ := @up_to_date_is_sound_if_shown_apart {} "chat" samplePaths sampleTree
    sampleTree samplePaths out discovered discovered built filled current told_apart
  exact ⟨out, built, filled, current, sound apart⟩

end TwoStates

section LookAlikes

def oddPath (byte : UInt8) : Path := ⟨Text.encode "chat/" ++ byte :: Text.encode ".ss"⟩

def extraTopic : List UInt8 := Text.encode "> topic extra\n< topic"

def blank : List UInt8 := Text.encode "\n"

def oneOdd : FileTree :=
  ((({} : FileTree).put (Path.steps "chat") .directory).put
      (Path.steps "chat/a.ss") (.file (Text.encode "+ hi\n- hello"))).put
    (oddPath 0xFF).steps (.file blank)

/-- The same scripts and a third, which looks like the second and is the only one with a topic. -/
def twoOdd : FileTree := oneOdd.put (oddPath 0xFE).steps (.file extraTopic)

def oneOddPaths : List Path := ["chat/a.ss", oddPath 0xFF]

def twoOddPaths : List Path := ["chat/a.ss", oddPath 0xFE, oddPath 0xFF]

theorem odd_scripts_discovered :
    oneOdd.discover "chat" "ss" = .ok oneOddPaths ∧ twoOdd.discover "chat" "ss" = .ok twoOddPaths :=
  ⟨by rfl, by rfl⟩

theorem odd_paths_look_alike : (oddPath 0xFE).shown = (oddPath 0xFF).shown := by decide

theorem odd_scripts_compile : ∃ out, compileDirectory {} twoOdd "chat" = .ok out ∧
    out.knowledgeBase.isEmpty = false ∧ out.recompiled = twoOddPaths.map Path.shown ∧
    out.checksums[(oddPath 0xFE).shown]? = some (Sha256.hex blank) ∧
    rebuildDirectory { cache := out.knowledgeBase.checksums } oneOdd "chat" = .ok .upToDate ∧
    ∃ again, compileDirectory {} oneOdd "chat" = .ok again ∧
      again.knowledgeBase.graph.topics.size ≠ out.knowledgeBase.graph.topics.size := by
  have evaluated : (compileDirectory {} twoOdd "chat").toOption.any (fun out =>
      !out.knowledgeBase.isEmpty &&
      decide (out.recompiled = twoOddPaths.map Path.shown ∧
        out.checksums[(oddPath 0xFE).shown]? = some (Sha256.hex blank)) &&
      ((rebuildDirectory { cache := out.knowledgeBase.checksums } oneOdd "chat").toOption.any
        fun rebuilt => decide (rebuilt = .upToDate)) &&
      (compileDirectory {} oneOdd "chat").toOption.any fun again =>
        decide (again.knowledgeBase.graph.topics.size ≠ out.knowledgeBase.graph.topics.size)) =
      true := by
    decide +kernel
  obtain ⟨out, ok, checked⟩ := ok_of_any evaluated
  simp only [Bool.and_eq_true, Bool.not_eq_eq_eq_not, Bool.not_true, decide_eq_true_eq] at checked
  obtain ⟨⟨⟨filled, listed, summed⟩, current⟩, compiled⟩ := checked
  obtain ⟨rebuilt, done, same⟩ := ok_of_any current
  obtain ⟨again, anew, differ⟩ := ok_of_any compiled
  exact ⟨out, ok, filled, listed, summed, done.trans (congrArg _ (of_decide_eq_true same)), again,
    anew, of_decide_eq_true differ⟩

theorem odd_checksums_differ : Sha256.hex extraTopic ≠ Sha256.hex blank := by
  decide +kernel

theorem odd_checksums_tell : ChecksumsTell twoOdd oneOdd twoOddPaths oneOddPaths := by
  have kept : ∀ path ∈ oneOddPaths, twoOdd.read path = oneOdd.read path := by
    intro path member
    simp only [oneOddPaths, List.mem_cons, List.not_mem_nil, or_false] at member
    rcases member with rfl | rfl
    · rfl
    · rfl
  have pairs : ∀ path ∈ twoOddPaths, ∀ twin ∈ oneOddPaths, path.shown = twin.shown →
      path = twin ∨ path = oddPath 0xFE ∧ twin = oddPath 0xFF := by
    decide
  intro path member twin another alike first second reads rereads same
  rcases pairs path member twin another alike with one | ⟨rfl, rfl⟩
  · rw [one, kept twin another, rereads] at reads
    exact (Except.ok.inj reads).symm
  · cases (show twoOdd.read (oddPath 0xFE) = .ok extraTopic by rfl).symm.trans reads
    cases (show oneOdd.read (oddPath 0xFF) = .ok blank by rfl).symm.trans rereads
    exact absurd same odd_checksums_differ

/-- A script can go, and a topic with it, while another that looks like it keeps the knowledge base
up to date. -/
theorem lost_topic_is_up_to_date : ∃ out,
    rebuildDirectory {} twoOdd "chat" = .ok (.compiled out) ∧
    out.knowledgeBase.isEmpty = false ∧
    rebuildDirectory { cache := out.knowledgeBase.checksums } oneOdd "chat" = .ok .upToDate ∧
    ChecksumsTell twoOdd oneOdd twoOddPaths oneOddPaths ∧
    ¬ CompilesTo {} oneOdd "chat" out.knowledgeBase := by
  obtain ⟨out, ok, filled, _, _, current, again, anew, differ⟩ := odd_scripts_compile
  refine ⟨out, rebuild_of_empty_cache rfl ok, filled, current, odd_checksums_tell, ?_⟩
  rintro ⟨compiled, ok_again, _, base⟩
  cases anew.symm.trans ok_again
  exact differ (by rw [base])

end LookAlikes

end DialogueScript
