import DialogueScript.Compile.SourceError
import DialogueScript.Files.Walk
import DialogueScript.Graph.Merge

/- Why a file or a directory cannot be compiled. Paths are told as they are shown. -/
namespace DialogueScript

inductive CompileError where
  | read (path : String) (fault : FileFault)
  | file (path : String) (source : SourceError)
  | walk (root : String) (fault : WalkFault)
  | repeatedTopic (name : String)
  | repeatedIdentifier (id : Identifier)
deriving DecidableEq, Repr

def CompileError.message : CompileError → String
  | .read path fault => s!"Error reading file: {path}: {fault.message}"
  | .file path source => s!"Error whilst processing file: {path}\n{source.message}"
  | .walk root fault => s!"failed to enumerate scripts under {root}: {fault.message}"
  | .repeatedTopic name => s!"topic '{name}' is declared in more than one file"
  | .repeatedIdentifier id => s!"identifier {id} was generated twice"

def CompileError.ofMerge : Graph.MergeFault → CompileError
  | .repeatedIdentifier id => .repeatedIdentifier id
  | .repeatedTopic name => .repeatedTopic name

end DialogueScript
