import DialogueScript.Concept.Table
import DialogueScript.Files.Tree
import DialogueScript.Json.Decode
import DialogueScript.Json.Reader

/- Synonym files: a JSON object that gives each word a list of words. -/
namespace DialogueScript.Concept

inductive LoadFault where
  | file (fault : FileFault)
  | malformed
deriving DecidableEq, Repr

def Table.ofParsed (parsed : Std.ExtTreeMap String (List String)) : Table :=
  Table.ofList parsed.toList

def Table.load (tree : FileTree) (path : Path) : Except LoadFault Table :=
  match tree.readText path with
  | .error fault => .error (.file fault)
  | .ok text =>
    match (Json.read? text).bind (Json.table? (Json.list? Json.string?)) with
    | none => .error .malformed
    | some parsed => .ok (.ofParsed parsed)

end DialogueScript.Concept
