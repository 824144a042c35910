import DialogueScript.Proofs.ArtifactSafety
import DialogueScript.Proofs.FailurePolicies
import DialogueScript.Proofs.KeptScripts
import DialogueScript.Proofs.RebuildAnswers

/- A second run. The knowledge base that a run has written is the cache of the next one, which finds
   the same scripts with the same checksums. It has nothing to do, unless there are scripts that
   look alike and share a checksum in the cache. -/
namespace DialogueScript
open Std

namespace Json

theorem latestMembers_distinct {members : List (String × Json)}
    (distinct : (members.map (·.1)).Nodup) : latestMembers members = members := by
  induction members with
  | nil => rfl
  | cons member rest ih =>
    rw [List.map_cons, List.nodup_cons] at distinct
    have last : rest.any (·.1 == member.1) = false := by
      rw [List.any_eq_false]
      intro other listed same
      exact distinct.1 (List.mem_map.mpr ⟨other, listed, eq_of_beq same⟩)
    rw [latestMembers, last, ih distinct.2]
    rfl

theorem latest_ofTable {α : Type} (f : α → Json) (table : ExtTreeMap String α) :
    (ofTable f table).latest = ofTable f table := by
  have names : (table.toList.map fun entry => (entry.1, f entry.2)).map (·.1) = table.keys := by
    simp [Function.comp_def]
  have distinct : table.keys.Nodup := ExtTreeMap.nodup_keys
  rw [← names] at distinct
  exact congrArg Json.object (latestMembers_distinct distinct)

end Json

namespace Command

variable {disk : Disk} {wording : Wording} {color : Bool} {tree after : FileTree}
  {arguments : List String} {configuration : Configuration} {path : String}
  {result : CompiledDirectory}

theorem checksums_of_base (base : KnowledgeBase) :
    checksumsOf? base.toJson = some base.checksums := by
  have held : (base.graph.members ++ [("checksums", Json.ofTable .string base.checksums),
      ("version", Json.ofNat base.version.toNat)]).reverse.lookup "checksums" =
      some (Json.ofTable .string base.checksums) := rfl
  simp only [checksumsOf?, KnowledgeBase.toJson, held, Option.getD_some, Json.latest_ofTable]
  exact Json.table_ofTable Graph.string_back base.checksums

theorem checksums_of_table {table : Checksums} (bare : "checksums" ∉ table) :
    checksumsOf? (Json.ofTable .string table) = some table := by
  have absent : (table.toList.map fun entry => (entry.1, Json.string entry.2)).reverse.lookup
      "checksums" = none := by
    rw [List.lookup_eq_none_iff]
    intro member listed
    obtain ⟨entry, held, rfl⟩ := List.mem_map.mp (List.mem_reverse.mp listed)
    rw [bne_iff_ne]
    intro same
    have key : entry.1 ∈ table.toList.map (·.1) := List.mem_map_of_mem held
    rw [ExtTreeMap.map_fst_toList_eq_keys, ExtTreeMap.mem_keys, ← same] at key
    exact bare key
  have whole : checksumsOf? (Json.ofTable .string table) =
      Json.table? Json.string? (Json.ofTable .string table).latest := by
    simp only [checksumsOf?, Json.ofTable, absent, Option.getD_none]
  rw [whole, Json.latest_ofTable]
  exact Json.table_ofTable Graph.string_back table

theorem loadCache_of_text {text : String} {json : Json} {checksums : Checksums}
    (read : tree.readText path = .ok text) (parsed : Json.read? text = some json)
    (held : checksumsOf? json = some checksums) : loadCache tree path = .ok checksums := by
  simp only [loadCache, read, parsed, Option.bind_some, held]

theorem loadCache_written {base : KnowledgeBase}
    (written : writeKnowledgeBase disk tree path base = (after, .ok true)) :
    loadCache after path = .ok base.checksums := by
  obtain ⟨_, location, target, writes⟩ := written_whole written
  exact loadCache_of_text (FileTree.readText_of_read (writes.read_target target))
    (Json.read_written (base_readable 123 base)).2 (checksums_of_base base)

end Command

section Rebuilding

variable {options : Options} {tree after : FileTree} {root : Path} {paths : List Path}
  {out : CompiledDirectory}

theorem rebuild_discovers {rebuild : Rebuild}
    (ok : rebuildDirectory options tree root = .ok rebuild) :
    ∃ paths, tree.discover root options.extension = .ok paths := by
  cases discovered : tree.discover root options.extension with
  | ok paths => exact ⟨paths, rfl⟩
  | error fault =>
    simp only [rebuildDirectory, compileAnew, compileDirectory, discovered, Except.map] at ok
    split at ok <;> cases ok

theorem clean_run_current_iff (ok : compileDirectory options tree root = .ok out)
    (clean : out.failures = []) (discovered : tree.discover root options.extension = .ok paths) :
    IsCurrent out.checksums tree paths ↔ Path.ShownApart paths := by
  obtain ⟨_, graph, again, _, _, rfl⟩ := compileDirectory_of_fates.mp ok
  cases discovered.symm.trans again
  have partition := fates_partition options tree paths
  rw [ofFates_failures] at clean
  rw [clean, List.map_nil, List.append_nil] at partition
  -- Every path is entered, some perhaps under one name.
  have entered : ((unchangedOf options tree paths).map (fun file => (file.path, file.checksum)) ++
      (compiledOf options tree paths).map fun file => (file.path, file.checksum)).map (·.1) |>.Perm
        (paths.map Path.shown) := by
    simpa [Function.comp_def] using List.perm_append_comm.trans partition
  have count := checksumTable_size_iff.trans entered.nodup_iff
  rw [← List.length_map (·.1), entered.length_eq, List.length_map, ← ofFates_checksums _ _ _ graph,
    ← Path.shownApart_iff (FileTree.ascending_nodup (FileTree.discovered_ascending discovered))]
    at count
  constructor
  · rintro ⟨size, _⟩
    exact count.mp size.symm
  · intro apart
    refine ⟨(count.mpr apart).symm, ?_⟩
    intro path member
    have listed := partition.mem_iff.mpr (List.mem_map_of_mem member)
    rw [List.mem_append, ← summed_paths paths graph] at listed
    obtain ⟨checksum, found⟩ := mem_iff_lookup.mp listed
    obtain ⟨twin, twin_member, alike, content, read, rfl⟩ := summed_content found
    cases apart twin twin_member path member alike
    exact ⟨content, read, found⟩

theorem isCurrent_congr {cache : Checksums}
    (same : ∀ path ∈ paths, after.read path = tree.read path) :
    IsCurrent cache after paths ↔ IsCurrent cache tree paths := by
  apply and_congr_right
  intro _
  apply forall₂_congr
  intro path member
  rw [same path member]

theorem filled_base_has_scripts (ok : compileDirectory options tree root = .ok out)
    (filled : out.knowledgeBase.isEmpty = false)
    (discovered : tree.discover root options.extension = .ok paths) :
    out.knowledgeBase.checksums = out.checksums ∧ paths ≠ [] := by
  obtain ⟨_, graph, found, _, merged, rfl⟩ := compileDirectory_of_fates.mp ok
  cases discovered.symm.trans found
  constructor
  · rw [ofFates_base_checksums, filled]
    rfl
  · rintro rfl
    cases merged
    cases filled

end Rebuilding

namespace Command

variable {disk : Disk} {wording : Wording} {color : Bool} {tree after : FileTree}
  {arguments : List String} {configuration : Configuration} {path : String}
  {result : CompiledDirectory}

theorem report_not_empty (wording : Wording) (color : Bool) (root : String)
    (result : CompiledDirectory) : report wording color root result ≠ "" := by
  simp [report, unlines, String.join_cons]

theorem quiet_iff (disk : Disk) (wording : Wording)
    (asked : parse color arguments = .ok configuration) :
    run wording color tree arguments disk = { exit := 0, stdout := "", stderr := "", tree } ↔
      configuration.rebuild tree = .ok .upToDate := by
  rw [run_asked disk asked]
  constructor
  · intro quiet
    cases rebuilt : configuration.rebuild tree with
    | error fault => simp [rebuilt, conclude] at quiet
    | ok rebuild =>
      cases rebuild with
      | upToDate => rfl
      | compiled result =>
        have silent : (deliver disk wording configuration tree result).stderr = "" := by
          rw [rebuilt] at quiet
          exact congrArg Outcome.stderr quiet
        have said : report wording configuration.color configuration.root result = "" := by
          simp only [deliver] at silent
          split at silent
          · exact silent
          · split at silent
            · exact (String.append_eq_empty_iff.mp silent).1
            · exact silent
            · exact silent
        exact absurd said (report_not_empty _ _ _ _)
  · intro current
    rw [current]
    rfl

theorem succeeded_run (asked : parse color arguments = .ok configuration)
    (out : configuration.out = some path)
    (success : (run wording color tree arguments disk).exit = 0) :
    configuration.rebuild tree = .ok .upToDate ∨
      ∃ result, configuration.rebuild tree = .ok (.compiled result) ∧ result.failures = [] ∧
        writeKnowledgeBase disk tree path result.knowledgeBase =
          ((run wording color tree arguments disk).tree, .ok true) := by
  rw [run_asked disk asked] at success ⊢
  cases rebuilt : configuration.rebuild tree with
  | error fault => simp [rebuilt, conclude] at success
  | ok rebuild =>
    cases rebuild with
    | upToDate => exact .inl rfl
    | compiled result =>
      simp only [rebuilt, conclude] at success ⊢
      obtain ⟨answer, written, ended⟩ :=
        (deliver_delivers disk wording asked out rebuilt).written
      rw [ended success] at written
      refine .inr ⟨result, rfl, ?_, written⟩
      rw [deliver_written out written] at success
      simpa using success

/-- A run has left the scripts and the synonyms as they were: no script is new, and what is read is
the same. -/
structure Undisturbed (configuration : Configuration) (before after : FileTree) : Prop where
  scripts : ∀ found, after.discover configuration.root configuration.extension = .ok found →
    ∃ paths, before.discover configuration.root configuration.extension = .ok paths ∧
      ∀ path ∈ found, path ∈ paths ∧ after.read path = before.read path
  synonyms : ∀ path, configuration.synonyms = some path → after.read path = before.read path

theorem options_extension {options : Options} (read : configuration.options tree = .ok options) :
    options.extension = configuration.extension := by
  simp only [Configuration.options, bind_ok_iff, pure, Except.pure, Except.ok.injEq] at read
  obtain ⟨_, _, _, _, rfl⟩ := read
  rfl

theorem options_again {options : Options} {checksums : Checksums}
    (read : configuration.options tree = .ok options) (cache : configuration.cache = some path)
    (loaded : loadCache after path = .ok checksums)
    (synonyms : ∀ path, configuration.synonyms = some path → after.read path = tree.read path) :
    configuration.options after = .ok { options with cache := checksums } := by
  have same : configuration.dictionary after = configuration.dictionary tree := by
    unfold Configuration.dictionary
    cases given : configuration.synonyms with
    | none => rfl
    | some path => simp only [Concept.Table.load, FileTree.readText, synonyms path given]
  have started : configuration.checksums after = .ok checksums := by
    simp only [Configuration.checksums, cache, loaded]
  simp only [Configuration.options, bind_ok_iff, pure, Except.pure, Except.ok.injEq] at read ⊢
  obtain ⟨_, _, dictionary, found, rfl⟩ := read
  exact ⟨checksums, started, dictionary, same.trans found, rfl⟩

theorem rebuild_again_iff {paths : List Path} (cache : configuration.cache = some path)
    (rebuilt : configuration.rebuild tree = .ok (.compiled result)) (clean : result.failures = [])
    (written : writeKnowledgeBase disk tree path result.knowledgeBase = (after, .ok true))
    (filled : result.knowledgeBase.isEmpty = false)
    (undisturbed : Undisturbed configuration tree after)
    (discovered : tree.discover configuration.root configuration.extension = .ok paths) :
    configuration.rebuild after = .ok .upToDate ↔ Path.ShownApart paths := by
  obtain ⟨options, read, compiled⟩ := rebuild_ok_iff.mp rebuilt
  rw [← options_extension read] at discovered
  have anew := rebuilt_anew compiled
  obtain ⟨checksums, present⟩ := filled_base_has_scripts anew filled discovered
  have again := options_again read cache (loadCache_written written) undisturbed.synonyms
  rw [checksums] at again
  obtain ⟨_, location, _, writes⟩ := written_whole written
  obtain ⟨found, rediscovered, still⟩ := writes.discover discovered
  obtain ⟨earlier, before, same⟩ :=
    undisturbed.scripts found (options_extension read ▸ rediscovered)
  cases (options_extension read ▸ discovered).symm.trans before
  have paths_agree : found = paths :=
    ascending_ext (FileTree.discovered_ascending rediscovered)
      (FileTree.discovered_ascending discovered)
      fun path => ⟨fun member => (same path member).1, fun member => still member⟩
  subst paths_agree
  have answer := @up_to_date_iff { options with cache := result.checksums } after
    configuration.root found rediscovered
  have current : IsCurrent result.checksums after found ↔ IsCurrent result.checksums tree found :=
    isCurrent_congr fun path member => (same path member).2
  rw [← clean_run_current_iff anew clean discovered, ← current, rebuild_ok_iff]
  constructor
  · rintro ⟨_, read_again, done⟩
    cases again.symm.trans read_again
    exact (answer.mp done).2
  · intro known
    have some : result.checksums ≠ ∅ := by
      intro empty
      have size := known.1
      rw [empty, ExtTreeMap.size_empty] at size
      exact present (List.length_eq_zero_iff.mp size)
    exact ⟨_, again, answer.mpr ⟨some, known⟩⟩

/-- What the command line leaves behind it takes up again.
1. If a run succeeds and leaves a knowledge base that is not empty at the path which is both its
   output and its cache, and has not written over its own input, then running it again says nothing
   and changes nothing, on any disk. This is so exactly if the first run itself had nothing to do or
   no two of the scripts that it discovered look alike.
2. The checksums of a knowledge base are what a run finds in the file that was written for it.
3. A table of checksums by itself does as well, unless one of them is for a script of the name
   `checksums`. -/
theorem runs_reach_a_fixed_point_iff (disk : Disk) (tree : FileTree) (path : String)
    (base : KnowledgeBase) :
    (∀ (laterDisk : Disk) (wording later : Wording) (color : Bool) (arguments : List String)
      (configuration : Configuration),
      parse color arguments = .ok configuration → configuration.out = some path →
      configuration.cache = some path → (run wording color tree arguments disk).exit = 0 →
      (run wording color tree arguments disk).tree.Holds path base → base.isEmpty = false →
      Undisturbed configuration tree (run wording color tree arguments disk).tree →
      ∃ paths, tree.discover configuration.root configuration.extension = .ok paths ∧
        (run later color (run wording color tree arguments disk).tree arguments laterDisk =
            { exit := 0, stdout := "", stderr := ""
              tree := (run wording color tree arguments disk).tree } ↔
          configuration.rebuild tree = .ok .upToDate ∨ Path.ShownApart paths)) ∧
    (∀ written, writeKnowledgeBase disk tree path base = (written, .ok true) →
      loadCache written path = .ok base.checksums) ∧
    ∀ (text : String) (table : Checksums), "checksums" ∉ table → tree.readText path = .ok text →
      text = (Json.ofTable .string table).compact ∨ text = (Json.ofTable .string table).pretty →
      loadCache tree path = .ok table := by
  refine ⟨?_, fun _ written => loadCache_written written, ?_⟩
  · intro laterDisk wording later color arguments configuration asked out cache success held filled
      undisturbed
    rw [quiet_iff laterDisk later asked]
    rcases succeeded_run asked out success with current | ⟨result, rebuilt, clean, written⟩
    · obtain ⟨options, read, done⟩ := rebuild_ok_iff.mp current
      obtain ⟨paths, discovered⟩ := rebuild_discovers done
      rw [options_extension read] at discovered
      refine ⟨paths, discovered, ?_⟩
      rw [idle_run disk wording asked (.upToDate current)]
      simp [current]
    · obtain ⟨options, read, done⟩ := rebuild_ok_iff.mp rebuilt
      obtain ⟨paths, discovered⟩ := rebuild_discovers done
      rw [options_extension read] at discovered
      refine ⟨paths, discovered, ?_⟩
      have same : result.knowledgeBase = base := by
        obtain ⟨_, location, target, writes⟩ := written_whole written
        exact FileTree.holds_unique (FileTree.holds_written (writes.read_target target)) held
      rw [rebuild_again_iff cache rebuilt clean written (same ▸ filled) undisturbed discovered]
      simp [rebuilt]
  · intro text table bare read wrote
    have readable : Json.Readable 127 (Json.ofTable .string table) :=
      Json.readable_table .string table
    have parsed : Json.read? text = some (Json.ofTable .string table) := by
      rcases wrote with rfl | rfl
      · exact (Json.read_written readable).1
      · exact (Json.read_written readable).2
    exact loadCache_of_text read parsed (checksums_of_table bare)

section Samples

theorem undisturbed_of_scripts {after : FileTree} {paths : List Path}
    (before : tree.discover "chat" "ss" = .ok paths)
    (again : after.discover "chat" "ss" = .ok paths)
    (same : ∀ path ∈ paths, after.read path = tree.read path) :
    Undisturbed sampleConfiguration tree after := by
  constructor
  · intro found discovered
    cases again.symm.trans discovered
    exact ⟨paths, before, fun path member => ⟨member, same path member⟩⟩
  · intro path given
    cases given

theorem first_run {result : CompiledDirectory}
    (options : sampleConfiguration.options tree = .ok {})
    (ok : compileDirectory {} tree "chat" = .ok result)
    (filled : result.knowledgeBase.isEmpty = false)
    (free : tree.writable "kb.json" = .ok (Path.steps "kb.json")) :
    sampleConfiguration.rebuild tree = .ok (.compiled result) ∧ result.failures = [] ∧
      writeKnowledgeBase soundDisk tree "kb.json" result.knowledgeBase =
        (builtOn tree result.knowledgeBase, .ok true) ∧
      run plainWording false tree sampleArguments =
        { exit := 0
          stderr := report plainWording false "chat" result
          tree := builtOn tree result.knowledgeBase } := by
  have rebuilt : sampleConfiguration.rebuild tree = .ok (.compiled result) :=
    rebuild_ok_iff.mpr ⟨{}, options, rebuild_of_empty_cache rfl ok⟩
  have clean : result.failures = [] := ((@failing_fast_ok_iff {} tree "chat" result).mp ok).2
  have written := written_beside free filled
  refine ⟨rebuilt, clean, written, ?_⟩
  rw [run_asked soundDisk sample_asked, rebuilt, conclude, deliver_written rfl written, clean]
  rfl

theorem sample_runs_reach_a_fixed_point : ∃ base,
    (run plainWording false sampleTree sampleArguments).exit = 0 ∧
    (run plainWording false sampleTree sampleArguments).tree = builtOn sampleTree base ∧
    base.isEmpty = false ∧
    run plainWording false (builtOn sampleTree base) sampleArguments =
      { exit := 0, stdout := "", stderr := "", tree := builtOn sampleTree base } ∧
    loadCache (builtOn sampleTree base) "kb.json" = .ok base.checksums := by
  obtain ⟨result, ok, filled, _⟩ := sampleTree_compiles
  obtain ⟨rebuilt, clean, written, first⟩ := first_run rfl ok filled rfl
  obtain ⟨_, _, target, writes⟩ := written_whole written
  have held : (builtOn sampleTree result.knowledgeBase).Holds "kb.json" result.knowledgeBase :=
    FileTree.holds_written (writes.read_target target)
  obtain ⟨scripts, same⟩ := built_tree_scripts result.knowledgeBase
  have undisturbed := undisturbed_of_scripts sample_scripts_discovered.1 scripts same
  obtain ⟨again, loads, _⟩ :=
    runs_reach_a_fixed_point_iff soundDisk sampleTree "kb.json" result.knowledgeBase
  replace again := again soundDisk plainWording plainWording false sampleArguments
    sampleConfiguration sample_asked rfl rfl
  rw [first] at again ⊢
  obtain ⟨paths, discovered, quiet⟩ := again rfl held filled undisturbed
  cases sample_scripts_discovered.1.symm.trans discovered
  exact ⟨result.knowledgeBase, rfl, rfl, filled,
    quiet.mpr (.inr sample_paths_shown_apart), loads _ written⟩

theorem odd_tree_undisturbed (base : KnowledgeBase) :
    Undisturbed sampleConfiguration twoOdd (builtOn twoOdd base) := by
  have scripts : (builtOn twoOdd base).discover "chat" "ss" = .ok twoOddPaths := by
    have walked : (builtOn twoOdd base).filesBelow 42 ⟨Path.steps "chat", "chat"⟩ [] =
        .ok twoOddPaths := rfl
    exact FileTree.discovered_below rfl rfl rfl walked rfl
  refine undisturbed_of_scripts odd_scripts_discovered.2 scripts ?_
  intro path member
  simp only [twoOddPaths, List.mem_cons, List.not_mem_nil, or_false] at member
  rcases member with rfl | rfl | rfl
  · trans Except.ok (Text.encode "+ hi\n- hello") <;> rfl
  · trans Except.ok extraTopic <;> rfl
  · trans Except.ok blank <;> rfl

/-- Where two scripts look alike, a second run compiles everything again and reports it. -/
theorem odd_runs_reach_no_fixed_point : ∃ base,
    (run plainWording false twoOdd sampleArguments).exit = 0 ∧
    (run plainWording false twoOdd sampleArguments).tree = builtOn twoOdd base ∧
    (builtOn twoOdd base).Holds "kb.json" base ∧ base.isEmpty = false ∧
    Undisturbed sampleConfiguration twoOdd (builtOn twoOdd base) ∧
    run plainWording false (builtOn twoOdd base) sampleArguments ≠
      { exit := 0, stdout := "", stderr := "", tree := builtOn twoOdd base } := by
  obtain ⟨result, ok, filled, _⟩ := odd_scripts_compile
  obtain ⟨rebuilt, clean, written, first⟩ := first_run rfl ok filled rfl
  obtain ⟨_, _, target, writes⟩ := written_whole written
  have undisturbed := odd_tree_undisturbed result.knowledgeBase
  refine ⟨result.knowledgeBase, by rw [first], by rw [first],
    FileTree.holds_written (writes.read_target target), filled, undisturbed, ?_⟩
  intro quiet
  have again :=
    rebuild_again_iff rfl rebuilt clean written filled undisturbed odd_scripts_discovered.2
  rw [quiet_iff soundDisk plainWording sample_asked, again] at quiet
  have same := quiet (oddPath 0xFE) (by decide) (oddPath 0xFF) (by decide) odd_paths_look_alike
  exact absurd same (by decide)

end Samples

end Command

end DialogueScript
