import DialogueScript.Proofs.CompiledGraphs
import DialogueScript.Proofs.FailurePolicies
import DialogueScript.Proofs.LoweredContent

/- The two topic policies. Rejecting repeated topics is extending them and a check besides. The
   check is made over the declarations of one script and again over the graphs of several, and each
   place makes its own exception for the random topic. Together they find the names that are
   declared twice, and where they find none they change nothing. -/
namespace DialogueScript
open Std

abbrev Options.extending (options : Options) : Options :=
  { options with topicConflicts := .extend }

abbrev Options.rejecting (options : Options) : Options :=
  { options with topicConflicts := .reject }

/-- A name that occurs twice and may not. -/
def Clashes (names : List String) (name : String) : Prop :=
  name ≠ randomTopic ∧ 2 ≤ names.count name

/-- The outcome of a check of names: a value, or a failure that tells a name which clashes. -/
inductive Checked {ε α : Type} (names : List String) (value : α) (fail : String → ε) :
    Except ε α → Prop where
  | passed (once : ∀ name, ¬ Clashes names name) : Checked names value fail (.ok value)
  | failed {name : String} (clash : Clashes names name) :
      Checked names value fail (.error (fail name))

theorem Checked.congr {ε α : Type} {names others : List String} {value : α} {fail : String → ε}
    {outcome : Except ε α} (checked : Checked names value fail outcome)
    (same : ∀ name, name ≠ randomTopic → others.count name = names.count name) :
    Checked others value fail outcome := by
  have iff : ∀ name, Clashes others name ↔ Clashes names name := by
    intro name
    constructor
    · intro clash
      exact ⟨clash.1, same name clash.1 ▸ clash.2⟩
    · intro clash
      exact ⟨clash.1, (same name clash.1).symm ▸ clash.2⟩
  cases checked with
  | passed once => exact .passed fun name clash => once name ((iff name).mp clash)
  | failed clash => exact .failed ((iff _).mpr clash)

theorem Checked.mapError {ε φ α : Type} {names : List String} {value : α} {fail : String → ε}
    {outcome : Except ε α} (checked : Checked names value fail outcome) (wrap : ε → φ) :
    Checked names value (wrap ∘ fail) (outcome.mapError wrap) := by
  cases checked with
  | passed once => exact .passed once
  | failed clash => exact .failed clash

/- One script. -/

namespace Script

theorem repeated_topic_clashes {seen : List String} {topics : List Topic} {name : String}
    (found : repeatedTopic? seen topics = some name) :
    name ≠ randomTopic ∧
      (name ∈ seen ∧ name ∈ topics.map (·.name) ∨ 2 ≤ (topics.map (·.name)).count name) := by
  induction topics generalizing seen with
  | nil => simp [repeatedTopic?] at found
  | cons topic rest ih =>
    simp only [repeatedTopic?] at found
    split at found
    · rename_i again
      cases found
      exact ⟨again.1, .inl ⟨again.2, by simp⟩⟩
    · obtain ⟨other, twice⟩ := ih found
      refine ⟨other, ?_⟩
      rw [List.map_cons, List.count_cons]
      rcases twice with ⟨known, later⟩ | twice
      · rcases List.mem_cons.mp known with rfl | known
        · have once := List.one_le_count_iff.mpr later
          right
          simp only [beq_self_eq_true, ↓reduceIte]
          omega
        · exact .inl ⟨known, List.mem_cons_of_mem _ later⟩
      · right
        omega

theorem no_repeated_topic {seen : List String} {topics : List Topic}
    (none : repeatedTopic? seen topics = none) {name : String} (other : name ≠ randomTopic) :
    (topics.map (·.name)).count name ≤ 1 ∧ (name ∈ seen → name ∉ topics.map (·.name)) := by
  induction topics generalizing seen with
  | nil => simp
  | cons topic rest ih =>
    simp only [repeatedTopic?] at none
    split at none
    · simp at none
    · rename_i first
      obtain ⟨once, apart⟩ := ih none
      rw [List.map_cons, List.count_cons]
      by_cases same : topic.name = name
      · subst same
        have absent := apart List.mem_cons_self
        constructor
        · rw [List.count_eq_zero_of_not_mem absent]
          simp
        · intro known
          exact absurd ⟨other, known⟩ first
      · constructor
        · simpa [same] using once
        · intro known listed
          rcases List.mem_cons.mp listed with rfl | later
          · exact same rfl
          · exact apart (List.mem_cons_of_mem _ known) later

theorem count_collapsed (script : Script) {name : String} (other : name ≠ randomTopic) :
    (script.collapsed.map (·.name)).count name = (script.topics.map (·.name)).count name := by
  have collapses := collapsed_collapses script
  generalize script.collapsed = topics at collapses
  cases collapses with
  | nothing_loose _ => rfl
  | joined before after topic split named _ => simp [split]
  | created _ _ => simp [Ne.symm other]

theorem repeatedTopic_eq_none_iff {topics : List Topic} :
    repeatedTopic? [] topics = none ↔ ∀ name, ¬ Clashes (topics.map (·.name)) name := by
  cases found : repeatedTopic? [] topics with
  | none =>
    simp only [true_iff]
    rintro name ⟨other, twice⟩
    have once := (no_repeated_topic found other).1
    omega
  | some name =>
    obtain ⟨other, twice⟩ := repeated_topic_clashes found
    simp only [reduceCtorEq, false_iff]
    intro once
    exact once name ⟨other, by simpa using twice⟩

theorem collapsed_clashes_iff (script : Script) (name : String) :
    Clashes (script.collapsed.map (·.name)) name ↔ Clashes (script.topics.map (·.name)) name := by
  unfold Clashes
  constructor
  · rintro ⟨other, twice⟩
    exact ⟨other, count_collapsed script other ▸ twice⟩
  · rintro ⟨other, twice⟩
    exact ⟨other, (count_collapsed script other).symm ▸ twice⟩

theorem check_declarations (script : Script) :
    (∃ name, repeatedTopic? [] script.collapsed = some name ∧
      Clashes (script.topics.map (·.name)) name) ∨
    repeatedTopic? [] script.collapsed = none ∧
      ∀ name, ¬ Clashes (script.topics.map (·.name)) name := by
  cases found : repeatedTopic? [] script.collapsed with
  | some name =>
    obtain ⟨other, twice⟩ := repeated_topic_clashes found
    exact .inl ⟨name, rfl, (collapsed_clashes_iff script name).mp ⟨other, by simpa using twice⟩⟩
  | none =>
    refine .inr ⟨rfl, ?_⟩
    intro name clash
    exact repeatedTopic_eq_none_iff.mp found name ((collapsed_clashes_iff script name).mpr clash)

end Script

/-- The topics that a text declares, in order. Nothing is read from a blank text. -/
def declaredIn (options : Options) (text : String) : List String :=
  if isBlankText text then []
  else
    match readScript options text with
    | .error _ => []
    | .ok script => script.topics.map (·.name)

def declaredTopics (options : Options) (tree : FileTree) (path : Path) : List String :=
  match tree.read path with
  | .error _ => []
  | .ok content =>
    match Text.decode content with
    | .error _ => []
    | .ok text => declaredIn options text

variable {options : Options} {tree : FileTree} {root path : Path}

theorem rejecting_lowering (scope : String) (script : Script) :
    lowerScript options.rejecting scope script =
      match Script.repeatedTopic? [] script.collapsed with
      | some name => .error (.repeatedTopic name)
      | none => lowerScript options.extending scope script := by
  unfold lowerScript Graph.ofScript
  cases found : Script.repeatedTopic? [] script.collapsed with
  | some name => simp [found]
  | none => simp [found]

theorem rejecting_text {expander : Concept.Expander} {name text : String} {script : CompiledScript}
    (ok : (compileText options.extending expander name text).1 =
      .ok script) :
    Checked (declaredIn options text) script .repeatedTopic
      (compileText options.rejecting expander name text).1 := by
  by_cases blank : isBlankText text = true
  · have nothing : declaredIn options text = [] := by simp [declaredIn, blank]
    simp only [compileText, blank, ↓reduceIte, Except.ok.injEq] at ok ⊢
    subst ok
    rw [nothing]
    exact .passed fun name clash => absurd clash.2 (by simp)
  · simp only [compileText, blank, Bool.false_eq_true, ↓reduceIte, resolveSource] at ok ⊢
    have same : readScript options.rejecting text =
        readScript options text := rfl
    have also : readScript options.extending text =
        readScript options text := rfl
    cases read : readScript options text with
    | error error => simp [also, read, bind, Except.bind] at ok
    | ok parsed =>
      have declared : declaredIn options text = parsed.topics.map (·.name) := by
        simp [declaredIn, blank, read]
      rw [also, read, bind_of_ok] at ok
      rw [same, read, bind_of_ok, rejecting_lowering, declared]
      -- Whatever follows lowering does not look at the policy.
      rcases Script.check_declarations parsed with ⟨repeated, found, clash⟩ | ⟨found, once⟩
      · rw [found]
        exact .failed clash
      · rw [found]
        have passed : Checked (parsed.topics.map (·.name)) script SourceError.repeatedTopic
            (.ok script) := .passed once
        rw [← ok] at passed
        exact passed

theorem lowered_topics {scope name : String} {script : Script} {graph : Graph}
    {told : List Diagnostic} (ok : lowerScript options scope script = .ok (graph, told)) :
    name ∈ graph.topics ↔ name ∈ script.collapsed.map (·.name) := by
  unfold lowerScript at ok
  split at ok
  · rename_i lowered built
    cases ok
    exact (Graph.ofScript_represents built).names name
  · cases ok
  · cases ok

theorem compileFile_of_text {content : List UInt8} {text : String}
    (read : tree.read path = .ok content) (decoded : Text.decode content = .ok text) :
    compileFile options tree path =
      (compileText options options.expander path.shown text).1.mapError (.file path.shown) := by
  rw [compileFile_eq read]
  unfold compileBytes
  rw [decoded]

theorem text_of_compiled_file {script : CompiledScript}
    (ok : compileFile options tree path = .ok script) :
    ∃ content text, tree.read path = .ok content ∧ Text.decode content = .ok text ∧
      (compileText options options.expander path.shown text).1 = .ok script := by
  cases read : tree.read path with
  | error fault =>
    rw [compileFile_unreadable read] at ok
    cases ok
  | ok content =>
    cases decoded : Text.decode content with
    | error fault =>
      rw [compileFile_eq read] at ok
      unfold compileBytes at ok
      rw [decoded] at ok
      cases ok
    | ok text =>
      refine ⟨content, text, rfl, decoded, ?_⟩
      rw [compileFile_of_text read decoded] at ok
      cases compiled : (compileText options options.expander path.shown text).1 with
      | error error =>
        rw [compiled] at ok
        cases ok
      | ok result =>
        rw [compiled] at ok
        cases ok
        rfl

theorem rejecting_file {script : CompiledScript}
    (ok : compileFile options.extending tree path = .ok script) :
    Checked (declaredTopics options tree path) script
      (fun name => .file path.shown (.repeatedTopic name))
      (compileFile options.rejecting tree path) := by
  obtain ⟨content, text, read, decoded, compiled⟩ := text_of_compiled_file ok
  have declared : declaredTopics options tree path = declaredIn options text := by
    simp [declaredTopics, read, decoded]
  rw [compileFile_of_text read decoded, declared]
  exact (rejecting_text compiled).mapError (CompileError.file path.shown)

theorem compiled_topics_declared {script : CompiledScript}
    (ok : compileFile options tree path = .ok script) {name : String}
    (other : name ≠ randomTopic) :
    name ∈ script.graph.topics ↔ name ∈ declaredTopics options tree path := by
  obtain ⟨content, text, read, decoded, compiled⟩ := text_of_compiled_file ok
  have declared : declaredTopics options tree path = declaredIn options text := by
    simp [declaredTopics, read, decoded]
  rw [declared]
  rcases compileText_cases compiled with
    ⟨blank, rfl⟩ | ⟨solid, parsed, lowered, _, resolved, _, _, _, reads, lowers, resolves,
      compiles, rfl⟩
  · simp [declaredIn, blank]
  · have listed : declaredIn options text = parsed.topics.map (·.name) := by
      simp [declaredIn, solid, reads]
    rw [listed, (Graph.revise_spec compiles).1, (Graph.revise_spec resolves).1,
      lowered_topics lowers, ← List.one_le_count_iff, ← List.one_le_count_iff,
      Script.count_collapsed parsed other]

/- Several scripts. -/

theorem count_keys {table : ExtTreeMap String β} (name : String) :
    table.keys.count name = if name ∈ table then 1 else 0 := by
  have distinct : table.keys.Nodup := ExtTreeMap.nodup_keys
  rw [distinct.count]
  simp only [ExtTreeMap.mem_keys]

def topicsOf (graphs : List Graph) : List String := graphs.flatMap (·.topics.keys)

theorem count_of_merge {graph other merged : Graph} (merge : graph.Merges other merged)
    (apart : graph.sharedTopic? other = none) (rest : List Graph) {name : String}
    (solid : name ≠ randomTopic) :
    (topicsOf (graph :: other :: rest)).count name = (topicsOf (merged :: rest)).count name := by
  have unshared : ¬ (name ∈ other.topics ∧ name ∈ graph.topics) := by
    rintro ⟨theirs, mine⟩
    have each := List.find?_eq_none.mp apart name (ExtTreeMap.mem_keys.mpr theirs)
    simp [solid, ExtTreeMap.mem_iff_contains.mp mine] at each
  simp only [topicsOf, List.flatMap_cons, List.count_append, count_keys, merge.mem_topics_iff]
  by_cases mine : name ∈ graph.topics
  · have theirs : name ∉ other.topics := fun held => unshared ⟨held, mine⟩
    simp [mine, theirs]
  · simp [mine]

theorem rejecting_absorb {graph other merged : Graph}
    (ok : graph.absorb .extend other = .ok merged) :
    graph.sharedTopic? other = none ∧ graph.absorb .reject other = .ok merged ∨
      ∃ name, graph.sharedTopic? other = some name ∧
        graph.absorb .reject other = .error (.repeatedTopic name) := by
  unfold Graph.absorb at ok ⊢
  cases distinct : graph.sharedIdentifier? other with
  | some id => simp [distinct] at ok
  | none =>
    cases shared : graph.sharedTopic? other with
    | none => exact .inl ⟨rfl, by simpa [distinct] using ok⟩
    | some name => exact .inr ⟨name, rfl, by simp⟩

theorem shared_topic_clashes {graph other : Graph} {name : String} (rest : List Graph)
    (shared : graph.sharedTopic? other = some name) :
    Clashes (topicsOf (graph :: other :: rest)) name := by
  have both := List.find?_some shared
  have theirs := ExtTreeMap.mem_keys.mp (List.mem_of_find?_eq_some shared)
  simp only [Bool.and_eq_true, bne_iff_ne] at both
  have mine : name ∈ graph.topics := ExtTreeMap.mem_iff_contains.mpr both.2
  refine ⟨both.1, ?_⟩
  simp only [topicsOf, List.flatMap_cons, List.count_append, count_keys, mine, theirs, ↓reduceIte]
  omega

theorem rejecting_merge {graph merged : Graph} {graphs : List Graph}
    (ok : mergeAll .extend graph graphs = .ok merged) :
    Checked (topicsOf (graph :: graphs)) merged .repeatedTopic (mergeAll .reject graph graphs) := by
  induction graphs generalizing graph with
  | nil =>
    cases ok
    refine .passed fun name clash => ?_
    have twice := clash.2
    simp only [topicsOf, List.flatMap_cons, List.flatMap_nil, List.append_nil, count_keys] at twice
    split at twice <;> omega
  | cons other rest ih =>
    simp only [mergeAll] at ok ⊢
    cases absorbed : graph.absorb .extend other with
    | error fault => simp [absorbed] at ok
    | ok next =>
      simp only [absorbed] at ok
      rcases rejecting_absorb absorbed with ⟨apart, same⟩ | ⟨name, shared, refused⟩
      · rw [same]
        refine (ih ok).congr ?_
        intro name solid
        exact count_of_merge (Graph.absorb_merges absorbed) apart rest solid
      · rw [refused]
        exact .failed (shared_topic_clashes rest shared)

/- A run. -/

/-- A script that does not fail when topics are extended meets the same fate when they are rejected,
or it declares a topic twice and is refused for that. -/
theorem rejecting_fate
    (fine : (fate options.extending tree path).fails = false) :
    fate options.rejecting tree path =
        fate options.extending tree path ∧
      ((fate options.extending tree path).compiled?.isSome →
        ∀ name, ¬ Clashes (declaredTopics options tree path) name) ∨
    ∃ file name, fate options.extending tree path = .compiled file ∧
      Clashes (declaredTopics options tree path) name ∧
      fate options.rejecting tree path =
        .refused (.file path.shown (.repeatedTopic name)) := by
  have met := meets_fate options.extending tree path
  generalize extended : fate options.extending tree path = given
    at met fine
  cases met with
  | unreadable read => cases fine
  | refused read missed outcome => cases fine
  | unchanged read known =>
    left
    refine ⟨?_, fun compiled => by cases compiled⟩
    unfold fate
    simp only [read, known, ↓reduceIte]
  | compiled read missed outcome =>
    have checked := rejecting_file outcome
    generalize rejected : compileFile options.rejecting tree path =
      result at checked
    cases checked with
    | passed once =>
      left
      refine ⟨?_, fun _ => once⟩
      unfold fate
      simp only [read, missed, rejected, ↓reduceIte]
    | @failed name clash =>
      right
      refine ⟨_, name, rfl, clash, ?_⟩
      unfold fate
      simp only [read, missed, rejected, ↓reduceIte]

variable {paths : List Path}

theorem nothing_fails (clean : failedOf options tree paths = []) (member : path ∈ paths) :
    (fate options tree path).fails = false := by
  have listed := failed_paths options tree paths
  rw [clean] at listed
  have none := List.map_eq_nil_iff.mp listed.symm.eq_nil
  rw [fails_eq, ← Bool.not_eq_true]
  exact List.filter_eq_nil_iff.mp none path member

theorem rejecting_failure (clean : failedOf options.extending tree paths = [])
    {failure : FileFailure} (failed : failure ∈ failedOf options.rejecting tree paths) :
    ∃ path ∈ paths.filter (isRecompiled options.extending tree), ∃ name,
      Clashes (declaredTopics options tree path) name ∧
      failure.error = .file path.shown (.repeatedTopic name) := by
  have each : ∀ path ∈ paths,
      (fate options.rejecting tree path).unread? path = some failure ∨
        (fate options.rejecting tree path).refused? path = some failure →
      ∃ file name, fate options.extending tree path = .compiled file ∧
        Clashes (declaredTopics options tree path) name ∧
        failure.error = .file path.shown (.repeatedTopic name) := by
    intro path member picked
    have fine := nothing_fails clean member
    rcases rejecting_fate fine with ⟨same, _⟩ | ⟨file, name, compiled, clash, refused⟩
    · rw [same] at picked
      cases met : fate options.extending tree path with
      | unreadable fault => rw [met] at fine; cases fine
      | refused error => rw [met] at fine; cases fine
      | _ => rw [met] at picked; rcases picked with picked | picked <;> cases picked
    · rw [refused] at picked
      rcases picked with picked | picked <;> cases picked
      exact ⟨file, name, compiled, clash, rfl⟩
  unfold failedOf at failed
  rw [List.mem_append, List.mem_filterMap, List.mem_filterMap] at failed
  have found : ∃ path ∈ paths, (fate options.rejecting tree path).unread? path = some failure ∨
      (fate options.rejecting tree path).refused? path = some failure := by
    rcases failed with ⟨path, member, picked⟩ | ⟨path, member, picked⟩
    · exact ⟨path, member, .inl picked⟩
    · exact ⟨path, member, .inr picked⟩
  obtain ⟨path, member, picked⟩ := found
  obtain ⟨file, name, compiled, clash, told⟩ := each path member picked
  have listed : isRecompiled options.extending tree path = true := by
    rw [isRecompiled_iff, recompiledAt_of_fate, compiled]
    exact ⟨file, rfl⟩
  exact ⟨path, List.mem_filter.mpr ⟨member, listed⟩, name, clash, told⟩

theorem rejecting_fates (clean : failedOf options.extending tree paths = [])
    (still : failedOf options.rejecting tree paths = []) (member : path ∈ paths) :
    fate options.rejecting tree path = fate options.extending tree path ∧
      ((fate options.extending tree path).compiled?.isSome →
        ∀ name, ¬ Clashes (declaredTopics options tree path) name) := by
  rcases rejecting_fate (nothing_fails clean member) with same | ⟨_, _, _, _, refused⟩
  · exact same
  · have fine := nothing_fails still member
    rw [refused] at fine
    cases fine

theorem rejecting_result (clean : failedOf options.extending tree paths = [])
    (still : failedOf options.rejecting tree paths = []) :
    compiledOf options.rejecting tree paths = compiledOf options.extending tree paths ∧
      CompiledDirectory.ofFates options.rejecting tree paths =
        CompiledDirectory.ofFates options.extending tree paths := by
  have compiled : compiledOf options.rejecting tree paths =
      compiledOf options.extending tree paths := by
    apply List.filterMap_congr
    intro path member
    rw [(rejecting_fates clean still member).1]
  have unchanged : unchangedOf options.rejecting tree paths =
      unchangedOf options.extending tree paths := by
    apply List.filterMap_congr
    intro path member
    rw [(rejecting_fates clean still member).1]
  refine ⟨compiled, ?_⟩
  funext graph
  unfold CompiledDirectory.ofFates
  rw [compiled, unchanged, clean, still]

theorem count_declared {files : List (Path × Recompiled)}
    (compiled : ∀ file ∈ files, compileFile options.extending tree file.1 = .ok file.2.script)
    (once : ∀ file ∈ files, ∀ name, ¬ Clashes (declaredTopics options tree file.1) name)
    {name : String} (solid : name ≠ randomTopic) :
    ((files.map (·.1)).flatMap (declaredTopics options tree)).count name =
      (topicsOf (files.map (·.2.script.graph))).count name := by
  induction files with
  | nil => rfl
  | cons file rest ih =>
    simp only [List.mem_cons, forall_eq_or_imp] at compiled once
    have most : (declaredTopics options tree file.1).count name ≤ 1 := by
      have few := once.1 name
      simp only [Clashes, not_and, Nat.not_le] at few
      exact Nat.le_of_lt_succ (few solid)
    have same : (declaredTopics options tree file.1).count name =
        file.2.script.graph.topics.keys.count name := by
      have known : name ∈ file.2.script.graph.topics ↔ name ∈ declaredTopics options tree file.1 :=
        compiled_topics_declared compiled.1 solid
      rw [count_keys]
      by_cases declared : name ∈ declaredTopics options tree file.1
      · have least := List.one_le_count_iff.mpr declared
        rw [if_pos (known.mpr declared)]
        omega
      · rw [if_neg (fun held => declared (known.mp held))]
        exact List.count_eq_zero_of_not_mem declared
    have later := ih compiled.2 once.2
    simp only [topicsOf] at later
    simp only [List.map_cons, List.flatMap_cons, topicsOf, List.count_append, same, later]

theorem Clashes.within {declared : Path → List String} {paths : List Path} {name : String}
    (member : path ∈ paths) (clash : Clashes (declared path) name) :
    Clashes (paths.flatMap declared) name := by
  refine ⟨clash.1, Nat.le_trans clash.2 ?_⟩
  obtain ⟨before, after, rfl⟩ := List.append_of_mem member
  simp only [List.flatMap_append, List.flatMap_cons, List.count_append]
  omega

def Recompiles (options : Options) (tree : FileTree) (root : Path) (out : CompiledDirectory)
    (scripts : List Path) : Prop :=
  (∃ paths, tree.discover root options.extension = .ok paths ∧
    scripts = paths.filter (isRecompiled { options with topicConflicts := .extend } tree)) ∧
  out.recompiled = scripts.map Path.shown

/-- A run that rejects repeated topics, where one that extends them succeeds: it is refused over a
script that declares a topic twice, or else all depends on what the scripts declare together. -/
theorem rejecting_run {out : CompiledDirectory} (fast : options.failurePolicy = .failFast)
    (ok : compileDirectory options.extending tree root = .ok out) :
    ∃ scripts, Recompiles options tree root out scripts ∧
    ((∃ path ∈ scripts, ∃ name, Clashes (declaredTopics options tree path) name ∧
      compileDirectory options.rejecting tree root =
        .error (.file path.shown (.repeatedTopic name))) ∨
    (∀ path ∈ scripts, ∀ name, ¬ Clashes (declaredTopics options tree path) name) ∧
      Checked (scripts.flatMap (declaredTopics options tree)) out .repeatedTopic
        (compileDirectory options.rejecting tree root)) := by
  obtain ⟨paths, graph, discovered, calm, merged, rfl⟩ := compileDirectory_of_fates.mp ok
  have clean := calm fast
  refine ⟨_, ⟨⟨paths, discovered, rfl⟩, ?_⟩, ?_⟩
  · rw [ofFates_recompiled, ← compiled_files_of_fates]
    exact recompiled_paths paths
  cases failed : failedOf options.rejecting tree paths with
  | cons failure more =>
    left
    have first : failure ∈ failedOf options.rejecting tree paths := by
      rw [failed]
      exact List.mem_cons_self
    obtain ⟨path, compiled, name, clash, told⟩ := rejecting_failure clean first
    refine ⟨path, compiled, name, clash, ?_⟩
    rw [← told]
    exact @stopped_run options.rejecting tree root paths fast discovered failure more failed
  | nil =>
    right
    obtain ⟨same, results⟩ := rejecting_result clean failed
    have listed := compiledAt_paths options.extending tree paths
    have once : ∀ file ∈ compiledAt options.extending tree paths, ∀ name,
        ¬ Clashes (declaredTopics options tree file.1) name := by
      intro file member
      obtain ⟨discovered, given⟩ := mem_compiledAt.mp member
      rw [recompiledAt_of_fate] at given
      exact (rejecting_fates clean failed discovered).2 (by rw [given]; rfl)
    constructor
    · intro path member
      obtain ⟨file, compiled, rfl⟩ := List.mem_map.mp (listed ▸ member)
      exact once file compiled
    · rw [← compiledAt_files, List.map_map] at merged
      have checked := (rejecting_merge merged).congr fun name solid =>
        count_declared (fun file => compiledAt_compiles) once solid
      rw [listed] at checked
      rw [unstopped_run (fun _ => failed) discovered, same, results, ← compiledAt_files,
        List.map_map]
      generalize mergeAll .reject {} _ = outcome at checked
      cases checked with
      | passed apart => exact .passed apart
      | failed clash => exact .failed clash

/-- Rejecting repeated topics is extending them and a check besides. A run that succeeds when topics
are extended gives the same if no topic is declared twice among the scripts that it compiles, and
fails over such a topic otherwise. A topic that one script declares twice is the failure of that
script. The random topic may be declared any number of times. -/
theorem rejecting_is_extending_and_checking {out : CompiledDirectory}
    (fast : options.failurePolicy = .failFast)
    (ok : compileDirectory { options with topicConflicts := .extend } tree root = .ok out) :
    ∃ scripts, Recompiles options tree root out scripts ∧
    ((∀ name, ¬ Clashes (scripts.flatMap (declaredTopics options tree)) name) →
      compileDirectory { options with topicConflicts := .reject } tree root = .ok out) ∧
    ((∃ name, Clashes (scripts.flatMap (declaredTopics options tree)) name) →
      (∃ path ∈ scripts, ∃ name, Clashes (declaredTopics options tree path) name ∧
        compileDirectory { options with topicConflicts := .reject } tree root =
          .error (.file path.shown (.repeatedTopic name))) ∨
      (∀ path ∈ scripts, ∀ name, ¬ Clashes (declaredTopics options tree path) name) ∧
        ∃ name, Clashes (scripts.flatMap (declaredTopics options tree)) name ∧
          compileDirectory { options with topicConflicts := .reject } tree root =
            .error (.repeatedTopic name)) := by
  obtain ⟨scripts, listed, outcome⟩ := rejecting_run fast ok
  refine ⟨scripts, listed, ?_⟩
  rcases outcome with ⟨path, member, name, clash, refused⟩ | ⟨once, checked⟩
  · constructor
    · intro apart
      exact absurd (clash.within member) (apart name)
    · intro _
      exact .inl ⟨path, member, name, clash, refused⟩
  · generalize compileDirectory { options with topicConflicts := .reject } tree root = outcome
      at checked
    cases checked with
    | passed apart =>
      constructor
      · intro _
        rfl
      · rintro ⟨name, clash⟩
        exact absurd clash (apart name)
    | @failed name clash =>
      constructor
      · intro apart
        exact absurd clash (apart name)
      · intro _
        exact .inr ⟨once, name, clash, rfl⟩

def petsTree : FileTree :=
  ((({} : FileTree).put (Path.steps "chat") .directory).put
      (Path.steps "chat/a.ss")
      (.file (Text.encode "+ hi\n- hello\n> topic pets\n+ cats\n- meow"))).put
    (Path.steps "chat/b.ss") (.file (Text.encode "+ ho\n- hey\n> topic pets\n+ dogs\n- woof"))

theorem petsTree_compiles : ∃ out, compileDirectory {} petsTree "chat" = .ok out ∧
    out.recompiled = samplePaths.map Path.shown ∧
    declaredTopics {} petsTree "chat/a.ss" = ["pets"] ∧
    declaredTopics {} petsTree "chat/b.ss" = ["pets"] := by
  have evaluated : (compileDirectory {} petsTree "chat").toOption.any (fun out =>
      decide (out.recompiled = samplePaths.map Path.shown ∧
        declaredTopics {} petsTree "chat/a.ss" = ["pets"] ∧
        declaredTopics {} petsTree "chat/b.ss" = ["pets"])) = true := by
    decide +kernel
  obtain ⟨out, ok, checked⟩ := ok_of_any evaluated
  exact ⟨out, ok, of_decide_eq_true checked⟩

theorem shared_pets_are_rejected :
    (∃ out, compileDirectory {} petsTree "chat" = .ok out) ∧
      compileDirectory { topicConflicts := .reject } petsTree "chat" =
        .error (.repeatedTopic "pets") := by
  obtain ⟨out, ok, recompiled, first, second⟩ := petsTree_compiles
  obtain ⟨scripts, ⟨⟨paths, discovered, filtered⟩, listed⟩, _, rejected⟩ :=
    @rejecting_is_extending_and_checking {} petsTree "chat" out rfl ok
  cases (show petsTree.discover "chat" "ss" = .ok samplePaths by rfl).symm.trans discovered
  have all : scripts = samplePaths := by
    rw [filtered] at listed ⊢
    apply List.filter_sublist.eq_of_length
    rw [← List.length_map Path.shown, ← listed, recompiled, List.length_map]
  subst all
  have declared : samplePaths.flatMap (declaredTopics {} petsTree) = ["pets", "pets"] := by
    rw [samplePaths, List.flatMap_cons, List.flatMap_cons, first, second]
    rfl
  have clash : Clashes (samplePaths.flatMap (declaredTopics {} petsTree)) "pets" := by
    rw [declared]
    exact ⟨by decide, by decide⟩
  refine ⟨⟨out, ok⟩, ?_⟩
  rcases rejected ⟨"pets", clash⟩ with ⟨path, member, name, inside, _⟩ | ⟨_, name, shared, refused⟩
  · -- Neither script declares a topic twice by itself.
    have alone : declaredTopics {} petsTree path = ["pets"] := by
      simp only [samplePaths, List.mem_cons, List.not_mem_nil, or_false] at member
      rcases member with rfl | rfl
      · exact first
      · exact second
    rw [alone] at inside
    have few := List.count_le_length (a := name) (l := ["pets"])
    exact absurd (Nat.le_trans inside.2 few) (by decide)
  · rw [declared] at shared
    have listed : name ∈ ["pets", "pets"] :=
      List.one_le_count_iff.mp (Nat.le_of_succ_le shared.2)
    have same : name = "pets" := by simpa using listed
    rw [refused, same]

end DialogueScript
