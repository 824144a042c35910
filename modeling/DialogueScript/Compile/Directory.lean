import DialogueScript.Artifact.Basic
import DialogueScript.Compile.File

/- Compiling a directory. Scripts whose checksum is in the cache are left alone, the others are
   compiled in order and merged in order. The books are kept by the paths as they are shown. -/
namespace DialogueScript

structure FileFailure where
  path : String
  error : CompileError
deriving DecidableEq, Repr

structure FileCounts where
  path : String
  topics : Nat
  gambits : Nat
  replies : Nat
  diagnostics : Nat
deriving DecidableEq, Repr

structure CompiledDirectory where
  knowledgeBase : KnowledgeBase := .empty
  checksums : Checksums := ∅
  recompiled : List String := []
  unchanged : List String := []
  failures : List FileFailure := []
  diagnostics : List (String × Diagnostic) := []
  files : List FileCounts := []
deriving DecidableEq, Repr

/-- A script file that was read: its checksum, and its content unless the cache knows it. -/
structure Scanned where
  path : String
  checksum : String
  content : Option (List UInt8)
deriving DecidableEq, Repr

def scan (cache : Checksums) (tree : FileTree) (path : Path) : Except CompileError Scanned := do
  let content ← readFile tree path
  let checksum := Sha256.hex content
  .ok ⟨path.shown, checksum, if cache[path.shown]? = some checksum then none else some content⟩

/-- Goes through the outcomes for a list of paths. A failure is the failure of the whole or is put
aside, by policy. -/
def settle (policy : FailurePolicy) :
    List (String × Except CompileError α) → Except CompileError (List α × List FileFailure)
  | [] => .ok ([], [])
  | (_, .ok value) :: rest =>
    (settle policy rest).map fun (values, failures) => (value :: values, failures)
  | (path, .error error) :: rest =>
    match policy with
    | .failFast => .error error
    | .skip =>
      (settle policy rest).map fun (values, failures) => (values, ⟨path, error⟩ :: failures)

structure Recompiled where
  path : String
  checksum : String
  script : CompiledScript
deriving DecidableEq, Repr

def Recompiled.counts (file : Recompiled) : FileCounts := {
  path := file.path
  topics := file.script.graph.topics.size
  gambits := file.script.graph.gambits.size
  replies := file.script.graph.replies.size
  diagnostics := file.script.diagnostics.length }

def recompileAll (options : Options) (expander : Concept.Expander) :
    List Scanned → List (String × Except CompileError Recompiled)
  | [] => []
  | file :: rest =>
    match file.content with
    | none => recompileAll options expander rest
    | some content =>
      let (compiled, expander) := compileBytes options expander file.path content
      (file.path, compiled.map (⟨file.path, file.checksum, ·⟩)) ::
        recompileAll options expander rest

def mergeAll (policy : TopicConflict) (graph : Graph) : List Graph → Except CompileError Graph
  | [] => .ok graph
  | other :: rest =>
    match graph.absorb policy other with
    | .error fault => .error (.ofMerge fault)
    | .ok graph => mergeAll policy graph rest

def checksumTable (entries : List (String × String)) : Checksums :=
  entries.foldl (fun table entry => table.insert entry.1 entry.2) ∅

/-- Puts together the result of a run: the scripts that were read, those of them that were
compiled, the graph that these make, and what failed. -/
def CompiledDirectory.assemble (scanned : List Scanned) (compiled : List Recompiled)
    (graph : Graph) (failures : List FileFailure) : CompiledDirectory :=
  let unchanged := scanned.filter (·.content.isNone)
  let checksums := checksumTable
    (unchanged.map (fun file => (file.path, file.checksum)) ++
      compiled.map fun file => (file.path, file.checksum))
  { knowledgeBase := if graph.isIncomplete then .empty else { graph, checksums }
    checksums
    recompiled := compiled.map (·.path)
    unchanged := unchanged.map (·.path)
    failures
    diagnostics := compiled.flatMap fun file => file.script.diagnostics.map (file.path, ·)
    files := compiled.map Recompiled.counts }

def compileDirectory (options : Options) (tree : FileTree) (root : Path) :
    Except CompileError CompiledDirectory :=
  match tree.discover root options.extension with
  | .error fault => .error (.walk root.shown fault)
  | .ok paths => do
    let (scanned, unread) ← settle options.failurePolicy
      (paths.map fun path => (path.shown, scan options.cache tree path))
    let (compiled, failed) ← settle options.failurePolicy
      (recompileAll options options.expander scanned)
    let graph ← mergeAll options.topicConflicts {} (compiled.map (·.script.graph))
    return .assemble scanned compiled graph (unread ++ failed)

inductive Rebuild where
  | upToDate
  | compiled (result : CompiledDirectory)
deriving DecidableEq, Repr

def isCurrent (cache : Checksums) (tree : FileTree) (paths : List Path) : Bool :=
  paths.length == cache.size && paths.all fun path =>
    match scan cache tree path with
    | .ok scanned => scanned.content.isNone
    | .error _ => false

def compileAnew (options : Options) (tree : FileTree) (root : Path) :
    Except CompileError Rebuild :=
  (compileDirectory { options with cache := ∅ } tree root).map .compiled

def rebuildDirectory (options : Options) (tree : FileTree) (root : Path) :
    Except CompileError Rebuild :=
  if options.cache.isEmpty then compileAnew options tree root
  else
    match tree.discover root options.extension with
    | .error fault => .error (.walk root.shown fault)
    | .ok paths =>
      if isCurrent options.cache tree paths then .ok .upToDate else compileAnew options tree root

end DialogueScript
