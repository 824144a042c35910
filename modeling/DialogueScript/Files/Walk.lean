import DialogueScript.Files.Tree

/- Finding the scripts below a root. Links are followed, directories are entered in the order of
   their names, and a link that leads back to a directory on the way is a fault. -/
namespace DialogueScript

inductive WalkFault where
  | entry (path : Path) (fault : FileFault)
  | loop (link ancestor : Path)
deriving DecidableEq, Repr

def WalkFault.message : WalkFault → String
  | .entry path fault => s!"IO error for operation on {path.shown}: {fault.message}"
  | .loop link ancestor =>
    s!"File system loop found: {link.shown} points to an ancestor {ancestor.shown}"

namespace FileTree

structure Ancestor where
  location : Location
  path : Path
deriving DecidableEq, Repr

inductive Found where
  | file
  | directory (location : Location)
deriving DecidableEq, Repr

/-- Looks at an entry. A link is followed by its whole path, and only there the ancestors matter. -/
def inspect (tree : FileTree) (ancestors : List Ancestor) (location : Location) (path : Path) :
    Except WalkFault Found :=
  match tree.node? location with
  | none => .error (.entry path .notFound)
  | some (.file _) => .ok .file
  | some .directory => .ok (.directory location)
  | some (.link _) =>
    match tree.resolve path with
    | .error fault => .error (.entry path fault)
    | .ok target =>
      match tree.node? target, ancestors.find? (·.location == target) with
      | some .directory, some ancestor => .error (.loop path ancestor.path)
      | some .directory, none => .ok (.directory target)
      | _, _ => .ok .file

def filesBelow (tree : FileTree) : (depth : Nat) → (here : Ancestor) → List Ancestor →
    Except WalkFault (List Path)
  | 0, _, _ => .ok []
  | depth + 1, here, outer => do
    if Path.isTooLong here.path then .error (.entry here.path .nameTooLong)
    let ancestors := here :: outer
    let found ← (tree.entries here.location).mapM fun name => do
      let path := Path.join here.path name
      match ← tree.inspect ancestors (here.location ++ [name]) path with
      | .file => return [path]
      | .directory location => tree.filesBelow depth ⟨location, path⟩ ancestors
    return found.flatten

/-- No way from the root is longer: each link leads to a directory that is not on the way yet, and
between two links the location grows. -/
def depthLimit (tree : FileTree) : Nat := (tree.nodes.size + 1) * (tree.nodes.size + 2)

def files (tree : FileTree) (root : Path) : Except WalkFault (List Path) :=
  match tree.resolve root { followLast := false } with
  | .error fault => .error (.entry root fault)
  | .ok location => do
    match ← tree.inspect [] location root with
    | .file => return [root]
    | .directory location => tree.filesBelow tree.depthLimit ⟨location, root⟩ []

def dropDots (extension : String) : String :=
  String.ofList (extension.toList.dropWhile (· == '.'))

def hasExtension (extension : String) (path : Path) : Bool :=
  path.fileName?.bind Path.extension? == some (Text.encode (dropDots extension))

def discover (tree : FileTree) (root : Path) (extension : String) :
    Except WalkFault (List Path) :=
  (tree.files root).map (·.filter (hasExtension extension))

end FileTree

end DialogueScript
