import DialogueScript.Artifact.Reader
import DialogueScript.Artifact.Writer
import DialogueScript.Command.Arguments
import DialogueScript.Command.Report
import DialogueScript.Concept.Load

/- A run of the command line on a tree of files. It changes at most the file that the out option
   names, and an empty knowledge base never takes the place of a file that is there. The file is
   written in place, so what becomes of it is up to the disk. -/
namespace DialogueScript.Command

inductive RunFault where
  | cacheUnread (path : String) (fault : FileFault)
  | cacheMalformed (path : String)
  | synonyms (path : String) (fault : Concept.LoadFault)
  | compile (error : CompileError)
  | unwritten (path : String) (fault : FileFault)
deriving DecidableEq, Repr

def RunFault.message (wording : Wording) : RunFault → String
  | .cacheUnread path fault => s!"error: failed to read cache {path}: {fault.message}"
  | .cacheMalformed path => s!"error: invalid cache {path}: {wording.malformed}"
  | .synonyms path (.file fault) => s!"failed to load concepts from {path}: {fault.message}"
  | .synonyms path .malformed => s!"failed to load concepts from {path}: {wording.malformed}"
  | .compile error => error.message
  | .unwritten path fault => s!"error: failed to write {path}: {fault.message}"

/-- The checksums in a JSON value: those of a knowledge base, or the value itself as a table. Of
two members of one name only the later counts, whatever the earlier holds. -/
def checksumsOf? (json : Json) : Option Checksums :=
  let held := match json with
    | .object members => (members.reverse.lookup "checksums").getD json
    | other => other
  Json.table? Json.string? held.latest

def loadCache (tree : FileTree) (path : String) : Except RunFault Checksums :=
  match tree.readText path with
  | .error .notFound => .ok ∅
  | .error fault => .error (.cacheUnread path fault)
  | .ok text =>
    match (Json.read? text).bind checksumsOf? with
    | none => .error (.cacheMalformed path)
    | some checksums => .ok checksums

def Configuration.checksums (configuration : Configuration) (tree : FileTree) :
    Except RunFault Checksums :=
  match configuration.cache with
  | none => .ok ∅
  | some path => loadCache tree path

def Configuration.dictionary (configuration : Configuration) (tree : FileTree) :
    Except RunFault (Option Concept.Source) :=
  match configuration.synonyms with
  | none => .ok none
  | some path =>
    match Concept.Table.load tree path with
    | .error fault => .error (.synonyms path fault)
    | .ok table => .ok (some table.source)

def Configuration.options (configuration : Configuration) (tree : FileTree) :
    Except RunFault Options := do
  let cache ← configuration.checksums tree
  let dictionary ← configuration.dictionary tree
  return {
    sources := { dictionary }
    cache
    extension := configuration.extension
    failurePolicy := if configuration.keepGoing then .skip else .failFast
    topicConflicts := if configuration.strictTopics then .reject else .extend }

def writeKnowledgeBase (disk : Disk) (tree : FileTree) (path : String) (base : KnowledgeBase) :
    FileTree × Except RunFault Bool :=
  if base.isEmpty && tree.pathExists path then (tree, .ok false)
  else
    match tree.store disk path (Text.encode base.toJson.pretty) with
    | (tree, none) => (tree, .ok true)
    | (tree, some fault) => (tree, .error (.unwritten path fault))

structure Outcome where
  exit : Nat
  stdout : String := ""
  stderr : String := ""
  tree : FileTree
deriving DecidableEq, Repr

/-- Control characters that could steer a terminal are spelled out in the log. -/
def logChar (c : Char) : List Char :=
  let code := c.toNat
  if code ∈ [0x07, 0x08, 0x0C, 0x1B, 0x7F] then
    '\\' :: 'x' :: Nat.toDigits 16 (code / 16) ++ Nat.toDigits 16 (code % 16)
  else if 0x80 ≤ code ∧ code ≤ 0x9F then
    '\\' :: 'u' :: '\x7b' :: Nat.toDigits 16 code ++ ['\x7d']
  else [c]

def logged (message : String) : String :=
  "ERROR parlance: " ++ String.ofList (message.toList.flatMap logChar) ++ "\n"

def deliver (disk : Disk) (wording : Wording) (configuration : Configuration) (tree : FileTree)
    (result : CompiledDirectory) : Outcome :=
  let stderr := report wording configuration.color configuration.root result
  let success := if result.failures.isEmpty then 0 else 1
  match configuration.out with
  | none => { exit := success, stdout := result.knowledgeBase.toJson.pretty ++ "\n", stderr, tree }
  | some path =>
    match writeKnowledgeBase disk tree path result.knowledgeBase with
    | (tree, .error fault) =>
      { exit := 1, stderr := stderr ++ logged (fault.message wording), tree }
    | (tree, .ok false) => { exit := 1, stderr, tree }
    | (tree, .ok true) => { exit := success, stderr, tree }

def Configuration.rebuild (configuration : Configuration) (tree : FileTree) :
    Except RunFault Rebuild := do
  let options ← configuration.options tree
  match rebuildDirectory options tree configuration.root with
  | .error error => .error (.compile error)
  | .ok rebuild => .ok rebuild

def conclude (disk : Disk) (wording : Wording) (configuration : Configuration) (tree : FileTree) :
    Except RunFault Rebuild → Outcome
  | .error fault => { exit := 1, stderr := logged (fault.message wording), tree }
  | .ok .upToDate => { exit := 0, tree }
  | .ok (.compiled result) => deliver disk wording configuration tree result

def divert (tree : FileTree) : Diversion → Outcome
  | .help => { exit := 0, stdout := helpText ++ "\n", tree }
  | .version => { exit := 0, stdout := programVersion ++ "\n", tree }
  | .fault fault => { exit := 2, stderr := fault.message ++ "\n", tree }

def run (wording : Wording) (color : Bool) (tree : FileTree) (arguments : List String)
    (disk : Disk := soundDisk) : Outcome :=
  match parse color arguments with
  | .error diversion => divert tree diversion
  | .ok configuration => conclude disk wording configuration tree (configuration.rebuild tree)

end DialogueScript.Command
