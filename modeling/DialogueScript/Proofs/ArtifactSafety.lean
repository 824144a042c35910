import DialogueScript.Command.Run
import DialogueScript.Proofs.ArtifactText
import DialogueScript.Proofs.CompiledGraphs
import DialogueScript.Proofs.RebuildSoundness
import DialogueScript.Proofs.WrittenFiles
import Mathlib.Logic.Relation

/- What a run of the command line does to the tree. One file is written or none. What is written to
   its end can be read, and a complete knowledge base makes way for nothing but a complete one. The
   file is written in place, so a disk that fails on the way leaves the beginning. -/
namespace DialogueScript

/-- Every reference leads to something, and there is a topic, a gambit and a reply. -/
def KnowledgeBase.IsComplete (base : KnowledgeBase) : Prop :=
  base.graph.isClosed = true ∧ base.graph.isIncomplete = false

def KnowledgeBase.bytes (base : KnowledgeBase) : List UInt8 := Text.encode base.toJson.pretty

def FileTree.Holds (tree : FileTree) (path : Path) (base : KnowledgeBase) : Prop :=
  ∃ text, tree.readText path = .ok text ∧ KnowledgeBase.read? text = some base

def FileTree.HoldsComplete (tree : FileTree) (path : Path) : Prop :=
  ∃ base, tree.Holds path base ∧ base.IsComplete

namespace FileTree

variable {tree after : FileTree} {path : Path} {base : KnowledgeBase}

theorem readText_of_read {text : String} (bytes : tree.read path = .ok (Text.encode text)) :
    tree.readText path = .ok text := by
  simp only [readText, bytes, bind_of_ok, Text.decode_encode]

theorem holds_written (bytes : tree.read path = .ok base.bytes) :
    tree.Holds path base := by
  refine ⟨_, readText_of_read bytes, ?_⟩
  rw [KnowledgeBase.read?, (Json.read_written (base_readable _ base)).2]
  exact base_back base

theorem holds_unique {other : KnowledgeBase} (first : tree.Holds path base)
    (second : tree.Holds path other) : base = other := by
  obtain ⟨text, read, parsed⟩ := first
  obtain ⟨again, reread, reparsed⟩ := second
  cases read.symm.trans reread
  exact Option.some.inj (parsed.symm.trans reparsed)

theorem holds_congr (same : after.read path = tree.read path) :
    after.Holds path base ↔ tree.Holds path base := by
  simp only [Holds, readText, same]

end FileTree

theorem compiled_base_complete {options : Options} {tree : FileTree} {root : Path}
    {out : CompiledDirectory} (ok : compileDirectory options tree root = .ok out) :
    out.knowledgeBase.IsComplete ∨ out.knowledgeBase = .empty := by
  obtain ⟨paths, graph, _, _, merged, rfl⟩ := compileDirectory_ok_iff.mp ok
  simp only [CompiledDirectory.assemble]
  split
  · exact .inr rfl
  · rename_i complete
    exact .inl ⟨Graph.well_formed_is_closed (merged_scripts_well_formed merged),
      by simpa using complete⟩

namespace Command

variable {disk : Disk} {wording : Wording} {color : Bool} {tree after : FileTree}
  {arguments : List String} {configuration : Configuration} {path : String}
  {result : CompiledDirectory} {base : KnowledgeBase} {location : Location}

theorem rebuild_ok_iff {rebuild : Rebuild} : configuration.rebuild tree = .ok rebuild ↔
    ∃ options, configuration.options tree = .ok options ∧
      rebuildDirectory options tree configuration.root = .ok rebuild := by
  simp only [Configuration.rebuild, bind_ok_iff]
  apply exists_congr
  intro options
  apply and_congr_right
  intro _
  cases rebuildDirectory options tree configuration.root with
  | error error => simp
  | ok found => simp

theorem result_complete (compiled : configuration.rebuild tree = .ok (.compiled result)) :
    result.knowledgeBase.IsComplete ∨ result.knowledgeBase = .empty := by
  obtain ⟨options, _, rebuilt⟩ := rebuild_ok_iff.mp compiled
  exact compiled_base_complete (rebuilt_anew rebuilt)

inductive Written (disk : Disk) (tree : FileTree) (path : String) (base : KnowledgeBase) :
    FileTree × Except RunFault Bool → Prop
  | kept (empty : base.isEmpty = true) (there : tree.pathExists path = true) :
    Written disk tree path base (tree, .ok false)
  | refused {fault : FileFault} (refused : tree.writable path = .error fault) :
    Written disk tree path base (tree, .error (.unwritten path fault))
  | whole {location : Location} {after : FileTree}
    (allowed : (base.isEmpty && tree.pathExists path) = false)
    (target : tree.resolve path { allowNew := true } = .ok location)
    (uncut : disk.cut? location base.bytes = none)
    (writes : tree.Writes location base.bytes after) :
    Written disk tree path base (after, .ok true)
  | cut {location : Location} {after : FileTree} {cut : Cut}
    (target : tree.resolve path { allowNew := true } = .ok location)
    (broken : disk.cut? location base.bytes = some cut)
    (writes : tree.Writes location (base.bytes.take cut.kept) after) :
    Written disk tree path base (after, .error (.unwritten path cut.fault))

theorem writeKnowledgeBase_spec (disk : Disk) (tree : FileTree) (path : String)
    (base : KnowledgeBase) :
    Written disk tree path base (writeKnowledgeBase disk tree path base) := by
  unfold writeKnowledgeBase
  split
  · rename_i kept
    rw [Bool.and_eq_true] at kept
    exact .kept kept.1 kept.2
  · rename_i allowed
    have stored := FileTree.store_spec disk tree path base.bytes
    unfold KnowledgeBase.bytes at stored
    generalize tree.store disk path (Text.encode base.toJson.pretty) = result at stored
    cases stored with
    | refused refused => exact .refused refused
    | whole target uncut writes => exact .whole (by simpa using allowed) target uncut writes
    | cut target broken writes => exact .cut target broken writes

theorem written_whole (ok : writeKnowledgeBase disk tree path base = (after, .ok true)) :
    (base.isEmpty && tree.pathExists path) = false ∧
      ∃ location, tree.resolve path { allowNew := true } = .ok location ∧
        tree.Writes location base.bytes after := by
  have written := writeKnowledgeBase_spec disk tree path base
  rw [ok] at written
  cases written with
  | whole allowed target _ writes => exact ⟨allowed, _, target, writes⟩

theorem run_asked (disk : Disk) (asked : parse color arguments = .ok configuration) :
    run wording color tree arguments disk =
      conclude disk wording configuration tree (configuration.rebuild tree) := by
  simp only [run, asked]

theorem deliver_written (out : configuration.out = some path)
    (written : writeKnowledgeBase disk tree path result.knowledgeBase = (after, .ok true)) :
    deliver disk wording configuration tree result =
      { exit := if result.failures.isEmpty then 0 else 1
        stderr := report wording configuration.color configuration.root result
        tree := after } := by
  simp only [deliver, out, written]

def Compiled (color : Bool) (arguments : List String) (tree : FileTree) (path : String)
    (base : KnowledgeBase) : Prop :=
  ∃ configuration result, parse color arguments = .ok configuration ∧
    configuration.out = some path ∧ configuration.rebuild tree = .ok (.compiled result) ∧
    result.knowledgeBase = base

structure Delivery (disk : Disk) (color : Bool) (arguments : List String) (tree : FileTree)
    (path : String) (base : KnowledgeBase) (outcome : Outcome) : Prop where
  compiled : Compiled color arguments tree path base
  low : outcome.exit ≤ 1
  written : ∃ answer, writeKnowledgeBase disk tree path base = (outcome.tree, answer) ∧
    (outcome.exit = 0 → answer = .ok true)

theorem deliver_delivers (disk : Disk) (wording : Wording)
    (asked : parse color arguments = .ok configuration) (out : configuration.out = some path)
    (rebuilt : configuration.rebuild tree = .ok (.compiled result)) :
    Delivery disk color arguments tree path result.knowledgeBase
      (deliver disk wording configuration tree result) := by
  refine ⟨⟨configuration, result, asked, out, rebuilt, rfl⟩, ?_, ?_⟩
  · simp only [deliver, out]
    split
    · exact Nat.le_refl 1
    · exact Nat.le_refl 1
    · dsimp only
      split <;> omega
  · simp only [deliver, out]
    split
    · rename_i written
      exact ⟨_, written, fun success => by cases success⟩
    · rename_i written
      exact ⟨_, written, fun success => by cases success⟩
    · rename_i written
      exact ⟨_, written, fun _ => rfl⟩

theorem run_cases (disk : Disk) (wording : Wording) (color : Bool) (tree : FileTree)
    (arguments : List String) :
    (run wording color tree arguments disk).tree = tree ∨
      ∃ path base, Delivery disk color arguments tree path base
        (run wording color tree arguments disk) := by
  cases asked : parse color arguments with
  | error diversion =>
    simp only [run, asked]
    cases diversion <;> exact .inl rfl
  | ok configuration =>
    rw [run_asked disk asked]
    cases rebuilt : configuration.rebuild tree with
    | error fault => exact .inl rfl
    | ok rebuild =>
      cases rebuild with
      | upToDate => exact .inl rfl
      | compiled result =>
        rw [conclude]
        cases out : configuration.out with
        | none => exact .inl (by simp only [deliver, out])
        | some path => exact .inr ⟨path, _, deliver_delivers disk wording asked out rebuilt⟩

theorem Compiled.complete (compiled : Compiled color arguments tree path base)
    (allowed : (base.isEmpty && tree.pathExists path) = false) :
    base.IsComplete ∨ base = .empty ∧ tree.pathExists path = false := by
  obtain ⟨_, _, _, _, rebuilt, rfl⟩ := compiled
  rcases result_complete rebuilt with complete | empty
  · exact .inl complete
  · rw [empty] at allowed
    exact .inr ⟨empty, allowed⟩

theorem run_writes (disk : Disk) (wording : Wording) (color : Bool) (tree : FileTree)
    (arguments : List String) :
    (run wording color tree arguments disk).tree = tree ∨
      ∃ path base location content, Compiled color arguments tree path base ∧
        tree.resolve path { allowNew := true } = .ok location ∧
        tree.Writes location content (run wording color tree arguments disk).tree := by
  rcases run_cases disk wording color tree arguments with kept | ⟨path, base, delivery⟩
  · exact .inl kept
  · obtain ⟨answer, written, _⟩ := delivery.written
    have spec := writeKnowledgeBase_spec disk tree path base
    rw [written] at spec
    generalize (run wording color tree arguments disk).tree = after at spec
    cases spec with
    | kept => exact .inl rfl
    | refused => exact .inl rfl
    | whole _ target _ writes => exact .inr ⟨_, _, _, _, delivery.compiled, target, writes⟩
    | cut target _ writes => exact .inr ⟨_, _, _, _, delivery.compiled, target, writes⟩

theorem run_writes_out_only
    (changed : (run wording color tree arguments disk).tree.node? location ≠
      tree.node? location) :
    ∃ configuration path, parse color arguments = .ok configuration ∧
      configuration.out = some path ∧
      tree.resolve path { allowNew := true } = .ok location := by
  rcases run_writes disk wording color tree arguments with
    kept | ⟨path, base, target, content, compiled, resolved, writes⟩
  · rw [kept] at changed
    exact absurd rfl changed
  · obtain ⟨configuration, _, asked, out, _⟩ := compiled
    have same : location = target := by
      by_contra different
      exact changed (writes.elsewhere location different)
    exact ⟨configuration, path, asked, out, same ▸ resolved⟩

theorem run_keeps_home (disk : Disk) (wording : Wording) (color : Bool) (tree : FileTree)
    (arguments : List String) : (run wording color tree arguments disk).tree.home = tree.home := by
  rcases run_writes disk wording color tree arguments with kept | ⟨_, _, _, _, _, _, writes⟩
  · rw [kept]
  · exact writes.home

def Disk.Takes (disk : Disk) (tree : FileTree) (path : Path) : Prop :=
  ∀ location, tree.resolve path = .ok location → ∀ content, disk.cut? location content = none

/-- Where something is overwritten to its end, there was a path to it, so the knowledge base that
takes its place is complete. -/
theorem run_keeps_complete {path : Path} (wording : Wording) (color : Bool)
    (arguments : List String) (takes : Disk.Takes disk tree path)
    (complete : tree.HoldsComplete path) :
    (run wording color tree arguments disk).tree.HoldsComplete path := by
  rcases run_cases disk wording color tree arguments with kept | ⟨target, base, delivery⟩
  · rwa [kept]
  · obtain ⟨old, ⟨text, read, parsed⟩, closed⟩ := complete
    obtain ⟨content, bytes, decoded⟩ := bind_ok_iff.mp read
    obtain ⟨answer, written, _⟩ := delivery.written
    have spec := writeKnowledgeBase_spec disk tree target base
    rw [written] at spec
    generalize (run wording color tree arguments disk).tree = after at spec
    have still (same : after.read path = .ok content) : after.HoldsComplete path :=
      ⟨old, (FileTree.holds_congr (same.trans bytes.symm)).mpr ⟨text, read, parsed⟩, closed⟩
    cases spec with
    | kept => exact still bytes
    | refused => exact still bytes
    | whole allowed resolved _ writes =>
      rcases writes.read_existing bytes with ⟨here, replaced⟩ | same
      · obtain ⟨place, there, file⟩ := FileTree.read_ok_iff.mp bytes
        cases there.symm.trans here
        have known := FileTree.exists_of_target resolved file
        rcases delivery.compiled.complete allowed with complete | ⟨_, unknown⟩
        · exact ⟨base, FileTree.holds_written replaced, complete⟩
        · rw [known] at unknown
          cases unknown
      · exact still same
    | cut _ broken writes =>
      rcases writes.read_existing bytes with ⟨here, _⟩ | same
      · rw [takes _ here] at broken
        cases broken
      · exact still same

/-- What can happen to a tree as long as nothing else touches the file at a path: a run with any
arguments, on a disk that does not fail at that file, or any change that leaves the file as it
is. -/
inductive Change (path : Path) : FileTree → FileTree → Prop
  | run (disk : Disk) (wording : Wording) (color : Bool) (tree : FileTree)
    (arguments : List String) (takes : Disk.Takes disk tree path) :
    Change path tree (run wording color tree arguments disk).tree
  | edit {before after : FileTree} (kept : after.read path = before.read path) :
    Change path before after

theorem Change.keeps_complete {path : Path} {before after : FileTree}
    (change : Change path before after) (complete : before.HoldsComplete path) :
    after.HoldsComplete path := by
  cases change with
  | run disk wording color tree arguments takes =>
    exact run_keeps_complete wording color arguments takes complete
  | edit kept =>
    obtain ⟨base, held, closed⟩ := complete
    exact ⟨base, (FileTree.holds_congr kept).mpr held, closed⟩

theorem history_keeps_complete {path : Path} {before after : FileTree}
    (history : Relation.ReflTransGen (Change path) before after)
    (complete : before.HoldsComplete path) : after.HoldsComplete path := by
  induction history with
  | refl => exact complete
  | tail _ change ih => exact change.keeps_complete ih

inductive Idle (configuration : Configuration) (tree : FileTree) : Prop
  | upToDate (current : configuration.rebuild tree = .ok .upToDate)
  | fault {fault : RunFault} (failed : configuration.rebuild tree = .error fault)
  | empty {path : String} {result : CompiledDirectory}
    (compiled : configuration.rebuild tree = .ok (.compiled result))
    (out : configuration.out = some path) (empty : result.knowledgeBase.isEmpty = true)
    (there : tree.pathExists path = true)
  | unwritable {path : String} {fault : FileFault} (out : configuration.out = some path)
    (refused : tree.writable path = .error fault)

theorem idle_run (disk : Disk) (wording : Wording)
    (asked : parse color arguments = .ok configuration) (idle : Idle configuration tree) :
    (run wording color tree arguments disk).tree = tree := by
  cases idle with
  | upToDate current => rw [run_asked disk asked, current]; rfl
  | fault failed => rw [run_asked disk asked, failed]; rfl
  | empty compiled out empty there =>
    rw [run_asked disk asked, compiled]
    simp only [conclude, deliver, out, writeKnowledgeBase, empty, there, Bool.and_self, ↓reduceIte]
  | @unwritable target _ out refused =>
    rcases run_cases disk wording color tree arguments with kept | ⟨_, base, delivery⟩
    · exact kept
    · obtain ⟨_, _, again, same, _⟩ := delivery.compiled
      cases asked.symm.trans again
      cases out.symm.trans same
      obtain ⟨answer, written, _⟩ := delivery.written
      have untouched : ∃ answer, writeKnowledgeBase disk tree target base = (tree, answer) := by
        simp only [writeKnowledgeBase, FileTree.store, refused]
        split
        · exact ⟨_, rfl⟩
        · exact ⟨_, rfl⟩
      obtain ⟨_, kept⟩ := untouched
      exact congrArg Prod.fst (written.symm.trans kept)

theorem refused_run (refused : (run wording color tree arguments disk).exit = 2) :
    (run wording color tree arguments disk).tree = tree := by
  rcases run_cases disk wording color tree arguments with kept | ⟨_, _, delivery⟩
  · exact kept
  · have low := delivery.low
    omega


theorem delivered_run (disk : Disk) (wording : Wording)
    (asked : parse color arguments = .ok configuration) (out : configuration.out = some path)
    (rebuilt : configuration.rebuild tree = .ok (.compiled result))
    (allowed : (result.knowledgeBase.isEmpty && tree.pathExists path) = false)
    (writable : tree.writable path = .ok location) :
    (disk.cut? location result.knowledgeBase.bytes = none →
      (run wording color tree arguments disk).tree.Holds path result.knowledgeBase ∧
        (result.knowledgeBase.IsComplete ∨
          result.knowledgeBase = .empty ∧ tree.pathExists path = false)) ∧
    ∀ cut, disk.cut? location result.knowledgeBase.bytes = some cut →
      (run wording color tree arguments disk).exit = 1 ∧
        (run wording color tree arguments disk).tree.read path =
          .ok (result.knowledgeBase.bytes.take cut.kept) := by
  obtain ⟨target, writes⟩ := FileTree.writable_spec writable
  have compiled : Compiled color arguments tree path result.knowledgeBase :=
    ⟨configuration, result, asked, out, rebuilt, rfl⟩
  rw [run_asked disk asked, rebuilt, conclude]
  constructor
  · intro uncut
    have written : writeKnowledgeBase disk tree path result.knowledgeBase =
        (tree.put location (.file result.knowledgeBase.bytes), .ok true) := by
      unfold KnowledgeBase.bytes at uncut
      simp only [writeKnowledgeBase, allowed, FileTree.store, writable, uncut]
      rfl
    rw [deliver_written out written]
    exact ⟨FileTree.holds_written ((writes _).read_target target), compiled.complete allowed⟩
  · intro cut broken
    have written : writeKnowledgeBase disk tree path result.knowledgeBase =
        (tree.put location (.file (result.knowledgeBase.bytes.take cut.kept)),
          .error (.unwritten path cut.fault)) := by
      unfold KnowledgeBase.bytes at broken
      simp only [writeKnowledgeBase, allowed, FileTree.store, writable, broken]
      rfl
    simp only [deliver, out, written]
    exact ⟨trivial, (writes _).read_target target⟩

/-- The file to which the out option leads is the only one that a run can change, and it is damaged
only by a disk that fails.
1. Nothing changes anywhere else.
2. Nothing changes at all when the arguments are refused, when all is up to date, when the cache,
   the synonyms or the scripts give a fault, when the knowledge base is empty and something is
   there, or when no file can be written there.
3. What is written to its end can be read, and it is a complete knowledge base, or an empty one
   where nothing was. Where the disk fails on the way, the run fails, and what it wrote by then is
   there.
4. Hence a complete knowledge base stays complete, whatever is run and however the scripts change,
   as long as no write to it is cut short. -/
theorem artifact_is_damaged_by_cuts_only (disk : Disk) (wording : Wording) (color : Bool)
    (tree : FileTree) (arguments : List String) :
    ((run wording color tree arguments disk).tree.home = tree.home ∧
      ∀ location,
        (run wording color tree arguments disk).tree.node? location ≠ tree.node? location →
        ∃ configuration path, parse color arguments = .ok configuration ∧
          configuration.out = some path ∧
          tree.resolve path { allowNew := true } = .ok location) ∧
    (((run wording color tree arguments disk).exit = 2 →
        (run wording color tree arguments disk).tree = tree) ∧
      ∀ configuration, parse color arguments = .ok configuration → Idle configuration tree →
        (run wording color tree arguments disk).tree = tree) ∧
    (∀ configuration path result location, parse color arguments = .ok configuration →
      configuration.out = some path → configuration.rebuild tree = .ok (.compiled result) →
      (result.knowledgeBase.isEmpty && tree.pathExists path) = false →
      tree.writable path = .ok location →
      (disk.cut? location result.knowledgeBase.bytes = none →
        (run wording color tree arguments disk).tree.Holds path result.knowledgeBase ∧
          (result.knowledgeBase.IsComplete ∨
            result.knowledgeBase = .empty ∧ tree.pathExists path = false)) ∧
      ∀ cut, disk.cut? location result.knowledgeBase.bytes = some cut →
        (run wording color tree arguments disk).exit = 1 ∧
          (run wording color tree arguments disk).tree.read path =
            .ok (result.knowledgeBase.bytes.take cut.kept)) ∧
    ∀ path after, tree.HoldsComplete path →
      Relation.ReflTransGen (Change path) tree after → after.HoldsComplete path := by
  refine ⟨⟨run_keeps_home .., fun _ => run_writes_out_only⟩, ⟨refused_run, ?_⟩, ?_, ?_⟩
  · intro configuration asked idle
    exact idle_run disk wording asked idle
  · intro configuration path result location asked out rebuilt allowed writable
    exact delivered_run disk wording asked out rebuilt allowed writable
  · intro path after complete history
    exact history_keeps_complete history complete

section Samples

def plainWording : Wording := ⟨fun _ => "", ""⟩

def sampleArguments : List String := ["chat", "--out", "kb.json", "--cache", "kb.json"]

def plainArguments : List String := ["chat", "--out", "kb.json"]

def sampleConfiguration : Configuration where
  root := "chat"
  out := some "kb.json"
  cache := some "kb.json"

def builtOn (tree : FileTree) (base : KnowledgeBase) : FileTree :=
  tree.put (Path.steps "kb.json") (.file base.bytes)

theorem sample_asked : parse false sampleArguments = .ok sampleConfiguration := rfl

theorem sample_rebuilt : ∃ result,
    sampleConfiguration.rebuild sampleTree = .ok (.compiled result) ∧
    compileDirectory {} sampleTree "chat" = .ok result ∧
    result.knowledgeBase.isEmpty = false := by
  obtain ⟨result, ok, filled, _⟩ := sampleTree_compiles
  have options : sampleConfiguration.options sampleTree = .ok {} := rfl
  have rebuilt : rebuildDirectory {} sampleTree sampleConfiguration.root =
      .ok (.compiled result) := rebuild_of_empty_cache rfl ok
  exact ⟨result, rebuild_ok_iff.mpr ⟨{}, options, rebuilt⟩, ok, filled⟩

theorem written_beside (free : tree.writable "kb.json" = .ok (Path.steps "kb.json"))
    (filled : base.isEmpty = false) :
    writeKnowledgeBase soundDisk tree "kb.json" base = (builtOn tree base, .ok true) := by
  have uncut : soundDisk.cut? (Path.steps "kb.json") base.bytes = none := rfl
  unfold KnowledgeBase.bytes at uncut
  simp only [writeKnowledgeBase, filled, Bool.false_and, Bool.false_eq_true, ↓reduceIte,
    FileTree.store, free, uncut]
  rfl

theorem built_tree_scripts (base : KnowledgeBase) :
    (builtOn sampleTree base).discover "chat" "ss" = .ok samplePaths ∧
      ∀ path ∈ samplePaths, (builtOn sampleTree base).read path = sampleTree.read path := by
  constructor
  · have walked : (builtOn sampleTree base).filesBelow 30 ⟨Path.steps "chat", "chat"⟩ [] =
        .ok samplePaths := rfl
    exact FileTree.discovered_below rfl rfl rfl walked rfl
  · have first : (builtOn sampleTree base).read "chat/a.ss" = sampleTree.read "chat/a.ss" := by
      trans Except.ok (Text.encode "+ hi\n- hello\n+ bye\n% hello\n- see you") <;> rfl
    have second : (builtOn sampleTree base).read "chat/b.ss" = sampleTree.read "chat/b.ss" := by
      trans Except.ok (Text.encode "+ ho\n- hey") <;> rfl
    simp [samplePaths, first, second]

theorem sample_artifact_is_not_damaged : ∃ result,
    sampleConfiguration.rebuild sampleTree = .ok (.compiled result) ∧
    (run plainWording false sampleTree sampleArguments).tree.HoldsComplete "kb.json" ∧
    (run plainWording false (run plainWording false sampleTree sampleArguments).tree
      ["nowhere", "--out", "kb.json"]).tree.HoldsComplete "kb.json" ∧
    (run plainWording false sampleTree []).exit = 2 ∧
    (run plainWording false sampleTree []).tree = sampleTree := by
  obtain ⟨result, rebuilt, _, filled⟩ := sample_rebuilt
  have allowed : (result.knowledgeBase.isEmpty && sampleTree.pathExists "kb.json") = false := by
    rw [filled, Bool.false_and]
  obtain ⟨held, complete | ⟨empty, _⟩⟩ :=
    ((artifact_is_damaged_by_cuts_only soundDisk plainWording false sampleTree
      sampleArguments).2.2.1 sampleConfiguration "kb.json" result (Path.steps "kb.json")
      sample_asked rfl rebuilt allowed rfl).1 rfl
  · have holds : (run plainWording false sampleTree sampleArguments).tree.HoldsComplete
        "kb.json" := ⟨result.knowledgeBase, held, complete⟩
    refine ⟨result, rebuilt, holds, ?_, rfl, ?_⟩
    · exact (artifact_is_damaged_by_cuts_only soundDisk plainWording false _ []).2.2.2 "kb.json" _
        holds (.single (.run soundDisk plainWording false _ ["nowhere", "--out", "kb.json"]
          fun _ _ _ => rfl))
    · exact (artifact_is_damaged_by_cuts_only soundDisk plainWording false sampleTree []).2.1.1 rfl
  · rw [empty] at filled
    cases filled

def fullDisk : Disk := fun _ _ => some ⟨0, .noSpace⟩

theorem base_bytes_not_empty (base : KnowledgeBase) : base.bytes ≠ [] := by
  intro nothing
  have text : base.toJson.pretty = "" := by
    have decoded := Text.decode_encode base.toJson.pretty
    rw [← KnowledgeBase.bytes, nothing] at decoded
    exact (Except.ok.inj decoded).symm
  have parsed := (Json.read_written (base_readable 123 base)).2
  rw [text] at parsed
  cases parsed

theorem cut_by_full_disk (base : KnowledgeBase) (location : Location) :
    fullDisk.cut? location base.bytes = some ⟨0, .noSpace⟩ := by
  have some : 0 < base.bytes.length := List.length_pos_iff.mpr (base_bytes_not_empty base)
  simp [Disk.cut?, fullDisk, some]

/-- On a disk that has no room left, a run destroys the complete knowledge base that it was to
replace. -/
theorem full_disk_damages_artifact : ∃ base,
    (builtOn sampleTree base).HoldsComplete "kb.json" ∧
    (run plainWording false (builtOn sampleTree base) plainArguments fullDisk).exit = 1 ∧
    (run plainWording false (builtOn sampleTree base) plainArguments fullDisk).tree.read
      "kb.json" = .ok [] ∧
    ¬ (run plainWording false (builtOn sampleTree base) plainArguments
      fullDisk).tree.HoldsComplete "kb.json" := by
  obtain ⟨result, rebuilt, ok, filled⟩ := sample_rebuilt
  obtain ⟨discovered, same⟩ := built_tree_scripts result.knowledgeBase
  let plain : Configuration := { root := "chat", out := some "kb.json" }
  have asked : parse false plainArguments = .ok plain := rfl
  have again : plain.rebuild (builtOn sampleTree result.knowledgeBase) =
      .ok (.compiled result) := by
    refine rebuild_ok_iff.mpr ⟨{}, rfl, rebuild_of_empty_cache rfl ?_⟩
    rw [← ok]
    exact compileDirectory_congr sample_scripts_discovered.1 discovered same
  have allowed : (result.knowledgeBase.isEmpty &&
      (builtOn sampleTree result.knowledgeBase).pathExists "kb.json") = false := by
    rw [filled, Bool.false_and]
  obtain ⟨failed, left⟩ := (delivered_run fullDisk plainWording asked rfl again allowed rfl).2 _
    (cut_by_full_disk result.knowledgeBase _)
  refine ⟨result.knowledgeBase, ⟨_, FileTree.holds_written rfl, ?_⟩, failed, left, ?_⟩
  · rcases result_complete rebuilt with complete | empty
    · exact complete
    · rw [empty] at filled
      cases filled
  · rintro ⟨base, ⟨text, read, parsed⟩, _⟩
    have none : (Text.encode "") = [] := rfl
    rw [List.take_zero, ← none] at left
    cases (FileTree.readText_of_read left).symm.trans read
    cases parsed

end Samples

end Command

end DialogueScript
