import DialogueScript.Proofs.FileAccounting

/- When a rebuild has nothing to do. It compares the number of scripts with the number of checksums
   and then looks up one script at a time. This comes to comparing the cache with the table of all
   checksums of the tree, exactly if no two of the discovered paths look alike. Where a rebuild has
   something to do, every script is compiled, as if there were no cache. -/
namespace DialogueScript
open Std

def summed? (tree : FileTree) (path : Path) : Option (String × String) :=
  match tree.read path with
  | .error _ => none
  | .ok content => some (path.shown, Sha256.hex content)

def currentChecksums (tree : FileTree) (paths : List Path) : Checksums :=
  checksumTable (paths.filterMap (summed? tree))

variable {options : Options} {tree : FileTree} {root path : Path} {paths : List Path}

theorem summed_eq_some {entry : String × String} :
    summed? tree path = some entry ↔ entry.1 = path.shown ∧
      ∃ content, tree.read path = .ok content ∧ entry.2 = Sha256.hex content := by
  obtain ⟨key, checksum⟩ := entry
  unfold summed?
  cases read : tree.read path with
  | error fault => simp
  | ok content => simp [eq_comm]

theorem summed_names (readable : ∀ path ∈ paths, ∃ content, tree.read path = .ok content) :
    (paths.filterMap (summed? tree)).map (·.1) = paths.map Path.shown := by
  rw [List.map_filterMap, ← List.filterMap_eq_map]
  apply List.filterMap_congr
  intro path member
  obtain ⟨content, read⟩ := readable path member
  simp [summed?, read]

theorem lookup_currentChecksums (distinct : (paths.map Path.shown).Nodup)
    (readable : ∀ path ∈ paths, ∃ content, tree.read path = .ok content)
    (shown checksum : String) :
    (currentChecksums tree paths)[shown]? = some checksum ↔ ∃ path ∈ paths, path.shown = shown ∧
      ∃ content, tree.read path = .ok content ∧ checksum = Sha256.hex content := by
  rw [← summed_names readable] at distinct
  rw [currentChecksums, (checksumTable_spec distinct).1, List.mem_filterMap]
  simp only [summed_eq_some, eq_comm]

theorem currentChecksums_size_iff
    (readable : ∀ path ∈ paths, ∃ content, tree.read path = .ok content) :
    (currentChecksums tree paths).size = paths.length ↔ (paths.map Path.shown).Nodup := by
  have many : (paths.filterMap (summed? tree)).length = paths.length := by
    rw [← List.length_map (·.1), summed_names readable, List.length_map]
  rw [← summed_names readable, ← checksumTable_size_iff, currentChecksums, many]

theorem isCurrent_iff {cache : Checksums} (distinct : (paths.map Path.shown).Nodup)
    (readable : ∀ path ∈ paths, ∃ content, tree.read path = .ok content) :
    IsCurrent cache tree paths ↔ cache = currentChecksums tree paths := by
  have size := (currentChecksums_size_iff readable).mpr distinct
  have lookup := lookup_currentChecksums distinct readable
  constructor
  · rintro ⟨count, hits⟩
    symm
    apply table_of_same_size
    · intro shown checksum found
      obtain ⟨path, member, rfl, content, read, rfl⟩ := (lookup shown checksum).mp found
      obtain ⟨now, again, known⟩ := hits path member
      cases read.symm.trans again
      exact known
    · omega
  · rintro rfl
    refine ⟨size.symm, ?_⟩
    intro path member
    obtain ⟨content, read⟩ := readable path member
    exact ⟨content, read, (lookup _ _).mpr ⟨path, member, rfl, content, read, rfl⟩⟩

theorem nothing_unchanged_anew {out : CompiledDirectory}
    (discovered : tree.discover root options.extension = .ok paths)
    (ok : compileDirectory { options with cache := ∅ } tree root = .ok out) :
    out.unchanged = [] ∧
      (out.recompiled ++ out.failures.map (·.path)).Perm (paths.map Path.shown) := by
  obtain ⟨found, graph, again, _, _, rfl⟩ := compileDirectory_of_fates.mp ok
  cases discovered.symm.trans again
  have none : unchangedOf { options with cache := ∅ } tree paths = [] := by
    rw [← unchanged_files_of_fates]
    exact nothing_unchanged rfl paths
  have partition := fates_partition { options with cache := ∅ } tree paths
  rw [none, List.map_nil, List.append_nil] at partition
  exact ⟨by rw [ofFates_unchanged, none, List.map_nil], partition⟩

/-- The table of the current checksums is itself short of a script where two look alike. -/
theorem compares_tables_iff (discovered : tree.discover root options.extension = .ok paths)
    (readable : ∀ path ∈ paths, ∃ content, tree.read path = .ok content) :
    (∀ cache, rebuildDirectory { options with cache } tree root = .ok .upToDate ↔
      cache ≠ ∅ ∧ cache = currentChecksums tree paths) ↔ Path.ShownApart paths := by
  have answer (cache : Checksums) :=
    @up_to_date_iff { options with cache } tree root paths discovered
  rw [Path.shownApart_iff (FileTree.ascending_nodup (FileTree.discovered_ascending discovered))]
  constructor
  · intro compares
    by_cases nothing : paths = []
    · simp [nothing]
    · have filled : currentChecksums tree paths ≠ ∅ := by
        obtain ⟨path, member⟩ := List.exists_mem_of_ne_nil paths nothing
        have entered : path.shown ∈ currentChecksums tree paths := by
          rw [currentChecksums, mem_checksumTable, summed_names readable]
          exact List.mem_map_of_mem member
        intro empty
        rw [empty] at entered
        exact ExtTreeMap.not_mem_empty entered
      have current := (answer _).mp ((compares _).mpr ⟨filled, rfl⟩)
      exact (currentChecksums_size_iff readable).mp current.2.1.symm
  · intro distinct cache
    rw [answer, isCurrent_iff distinct readable]

/-- A rebuild of readable scripts has nothing to do exactly if there are checksums, as many as
scripts, and among them that of each script. In every other case it does what compiling without a
cache does. That there is nothing to do exactly if the cache is the table of the current checksums,
whatever the cache, is the case exactly if no two of the discovered paths look alike. -/
theorem rebuild_compares_checksums_iff
    (discovered : tree.discover root options.extension = .ok paths)
    (readable : ∀ path ∈ paths, ∃ content, tree.read path = .ok content) :
    (rebuildDirectory options tree root = .ok .upToDate ↔
      options.cache ≠ ∅ ∧ IsCurrent options.cache tree paths) ∧
    ((∀ cache, rebuildDirectory { options with cache } tree root = .ok .upToDate ↔
      cache ≠ ∅ ∧ cache = currentChecksums tree paths) ↔ Path.ShownApart paths) ∧
    (rebuildDirectory options tree root ≠ .ok .upToDate →
      rebuildDirectory options tree root =
        (compileDirectory { options with cache := ∅ } tree root).map .compiled) ∧
    ∀ out, rebuildDirectory options tree root = .ok (.compiled out) →
      out.unchanged = [] ∧
        (out.recompiled ++ out.failures.map (·.path)).Perm (paths.map Path.shown) := by
  refine ⟨up_to_date_iff discovered, compares_tables_iff discovered readable, ?_, ?_⟩
  · intro changed
    rcases rebuild_of_discovered discovered with ⟨_, _, done⟩ | ⟨_, anew⟩
    · exact absurd done changed
    · exact anew
  · intro out built
    exact nothing_unchanged_anew discovered (rebuilt_anew built)

theorem sample_rebuild_compares_checksums :
    sampleTree.discover "chat" "ss" = .ok samplePaths ∧
      (∀ path ∈ samplePaths, ∃ content, sampleTree.read path = .ok content) ∧
      rebuildDirectory { cache := currentChecksums sampleTree samplePaths } sampleTree "chat" =
        .ok .upToDate ∧
      rebuildDirectory { cache := currentChecksums sampleTree ["chat/a.ss"] } sampleTree "chat" =
        (compileDirectory {} sampleTree "chat").map .compiled := by
  obtain ⟨discovered, readable⟩ := sample_scripts_discovered
  have names : "chat/b.ss" ∈ currentChecksums sampleTree samplePaths ∧
      "chat/b.ss" ∉ currentChecksums sampleTree ["chat/a.ss"] := by
    refine ⟨?_, ?_⟩
    · rw [currentChecksums, mem_checksumTable, summed_names readable]
      simp [samplePaths]
    · rw [currentChecksums, mem_checksumTable, summed_names]
      · simp
      · intro path member
        exact readable path (List.mem_cons.mpr (.inl (List.mem_singleton.mp member)))
  have answer (cache : Checksums) :=
    @rebuild_compares_checksums_iff { cache } sampleTree "chat" _ discovered readable
  have compares := (answer ∅).2.1.mpr sample_paths_shown_apart
  refine ⟨discovered, readable, (compares _).mpr ⟨?_, rfl⟩, (answer _).2.2.1 ?_⟩
  · intro empty
    rw [empty] at names
    exact ExtTreeMap.not_mem_empty names.1
  · intro done
    obtain ⟨_, same⟩ := (compares _).mp done
    rw [same] at names
    exact names.2 names.1

def alikeTree : FileTree :=
  ((({} : FileTree).put (Path.steps "chat") .directory).put
      (oddPath 0xFE).steps (.file blank)).put (oddPath 0xFF).steps (.file blank)

def alikeCache : Checksums :=
  checksumTable [((oddPath 0xFE).shown, Sha256.hex blank), ("chat/gone.ss", "0")]

/-- A checksum that is left over makes up for the one that two scripts share. -/
theorem left_over_checksum_is_up_to_date :
    alikeTree.discover "chat" "ss" = .ok [oddPath 0xFE, oddPath 0xFF] ∧
      (∀ path ∈ [oddPath 0xFE, oddPath 0xFF], alikeTree.read path = .ok blank) ∧
      rebuildDirectory { cache := alikeCache } alikeTree "chat" = .ok .upToDate ∧
      "chat/gone.ss" ∈ alikeCache ∧
      "chat/gone.ss" ∉ currentChecksums alikeTree [oddPath 0xFE, oddPath 0xFF] := by
  have discovered : alikeTree.discover "chat" "ss" = .ok [oddPath 0xFE, oddPath 0xFF] := by rfl
  have reads : ∀ path ∈ [oddPath 0xFE, oddPath 0xFF], alikeTree.read path = .ok blank := by
    simp only [List.mem_cons, List.not_mem_nil, or_false, forall_eq_or_imp, forall_eq]
    exact ⟨by rfl, by rfl⟩
  obtain ⟨lookups, size⟩ := @checksumTable_spec
    [((oddPath 0xFE).shown, Sha256.hex blank), ("chat/gone.ss", "0")] (by decide)
  refine ⟨discovered, reads, ?_, mem_checksumTable.mpr (by simp), ?_⟩
  · refine (@up_to_date_iff { cache := alikeCache } alikeTree "chat" _ discovered).mpr ⟨?_, ?_⟩
    · intro (empty : alikeCache = ∅)
      rw [alikeCache] at empty
      simp [empty] at size
    · refine ⟨size.symm, ?_⟩
      intro path member
      have alike : path.shown = (oddPath 0xFE).shown :=
        (by decide : ∀ path ∈ [oddPath 0xFE, oddPath 0xFF],
          path.shown = (oddPath 0xFE).shown) path member
      exact ⟨blank, reads path member, (lookups _ _).mpr (by simp [alike])⟩
  · rw [currentChecksums, mem_checksumTable, summed_names fun path member => ⟨_, reads path member⟩]
    decide

end DialogueScript
