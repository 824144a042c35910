import DialogueScript.Files.Path
import Std.Data.ExtTreeMap

/- A tree of files, directories and symbolic links, and how a path is resolved in it. -/
namespace DialogueScript

abbrev Location := List FileName

instance : Std.TransOrd Location := inferInstance

inductive FileNode where
  | file (content : List UInt8)
  | directory
  | link (target : Path)
deriving DecidableEq, Repr

inductive FileFault where
  | notFound
  | notDirectory
  | isDirectory
  | tooManyLinks
  | nameTooLong
  | nulInName
  | notUtf8
  | noSpace
  | deviceError
deriving DecidableEq, Repr

def FileFault.message : FileFault → String
  | .notFound => "No such file or directory (os error 2)"
  | .notDirectory => "Not a directory (os error 20)"
  | .isDirectory => "Is a directory (os error 21)"
  | .tooManyLinks => "Too many levels of symbolic links (os error 40)"
  | .nameTooLong => "File name too long (os error 36)"
  | .nulInName => "file name contained an unexpected NUL byte"
  | .notUtf8 => "stream did not contain valid UTF-8"
  | .noSpace => "No space left on device (os error 28)"
  | .deviceError => "Input/output error (os error 5)"

theorem empty_tree_is_named (location : Location)
    (present : location ∈ (∅ : Std.ExtTreeMap Location FileNode)) : location.all Path.isName := by
  simp at present

/-- The nodes below the root, which is a directory, and the place where relative paths start. Each
node is found under names that a directory can have. -/
structure FileTree where
  nodes : Std.ExtTreeMap Location FileNode := ∅
  home : Location := []
  named : ∀ location ∈ nodes, location.all Path.isName := by
    exact DialogueScript.empty_tree_is_named
deriving DecidableEq, Repr

/-- The end of a write that fails: how many bytes are in the file by then, and why no more. -/
structure Cut where
  kept : Nat
  fault : FileFault
deriving DecidableEq, Repr

abbrev Disk := Location → List UInt8 → Option Cut

/-- A place behind the end is no failure. -/
def Disk.cut? (disk : Disk) (location : Location) (content : List UInt8) : Option Cut :=
  (disk location content).filter (·.kept < content.length)

def soundDisk : Disk := fun _ _ => none

namespace FileTree

def node? (tree : FileTree) : Location → Option FileNode
  | [] => some .directory
  | location => tree.nodes[location]?

inductive Stop where
  | reached (location : Location)
  | link (target : Path) (rest : List FileName)
deriving DecidableEq, Repr

/-- Which paths may end where: a final link may be followed or kept, and the last name of a path
may have to exist or may be new. What may be new is no directory, so no slash may follow it. -/
structure Mode where
  followLast : Bool := true
  allowNew : Bool := false

def follow (tree : FileTree) (mode : Mode) (location : Location) :
    List FileName → Except FileFault Stop
  | [] => .ok (.reached location)
  | part :: rest =>
    if tree.node? location ≠ some .directory then .error .notDirectory
    else if part = [] ∨ part = Path.self then tree.follow mode location rest
    else if part = Path.above then tree.follow mode location.dropLast rest
    else if mode.allowNew && rest == [[]] then .error .isDirectory
    else if Path.nameBytes < part.length then .error .nameTooLong
    else
      match tree.node? (location ++ [part]) with
      | none =>
        if mode.allowNew && rest.isEmpty then .ok (.reached (location ++ [part]))
        else .error .notFound
      | some (.link target) =>
        if rest.isEmpty && !mode.followLast then .ok (.reached (location ++ [part]))
        else .ok (.link target rest)
      | some _ => tree.follow mode (location ++ [part]) rest

def linkLimit : Nat := 40

def start (tree : FileTree) (path : Path) : Location :=
  if Path.isAbsolute path then [] else tree.home

def resolveFrom (tree : FileTree) (mode : Mode) :
    (links : Nat) → Location → List FileName → Except FileFault Location
  | links, location, parts =>
    match tree.follow mode location parts, links with
    | .error fault, _ => .error fault
    | .ok (.reached location), _ => .ok location
    | .ok (.link _ _), 0 => .error .tooManyLinks
    | .ok (.link target rest), links + 1 =>
      tree.resolveFrom mode links (tree.start target) (Path.parts target ++ rest)

def resolve (tree : FileTree) (path : Path) (mode : Mode := {}) : Except FileFault Location :=
  if path.bytes.contains 0 then .error .nulInName
  else if path.bytes.isEmpty then .error .notFound
  else if Path.isTooLong path then .error .nameTooLong
  else tree.resolveFrom mode linkLimit (tree.start path) (Path.parts path)

def pathExists (tree : FileTree) (path : Path) : Bool := (tree.resolve path).isOk

def entries (tree : FileTree) (location : Location) : List FileName :=
  tree.nodes.keys.filterMap fun key =>
    if key ≠ [] ∧ key.dropLast = location then key.getLast? else none

def read (tree : FileTree) (path : Path) : Except FileFault (List UInt8) := do
  let location ← tree.resolve path
  match tree.node? location with
  | some (.file content) => .ok content
  | some _ => .error .isDirectory
  | none => .error .notFound

def readText (tree : FileTree) (path : Path) : Except FileFault String := do
  match Text.decode (← tree.read path) with
  | .ok text => .ok text
  | .error _ => .error .notUtf8

/-- Puts a node at a location. No node can be put under a name that a directory cannot have. -/
def put (tree : FileTree) (location : Location) (node : FileNode) : FileTree :=
  if named : location.all Path.isName then
    { tree with
      nodes := tree.nodes.insert location node
      named := by
        intro other member
        rcases Std.ExtTreeMap.mem_insert.mp member with same | old
        · rwa [← Std.LawfulEqCmp.eq_of_compare same]
        · exact tree.named other old }
  else tree

def drop (tree : FileTree) (location : Location) : FileTree :=
  { tree with
    nodes := tree.nodes.erase location
    named := fun other member => tree.named other (Std.ExtTreeMap.mem_of_mem_erase member) }

def writable (tree : FileTree) (path : Path) : Except FileFault Location := do
  let location ← tree.resolve path { allowNew := true }
  match tree.node? location with
  | none | some (.file _) => .ok location
  | some _ => .error .isDirectory

/-- Writes a file. What was there is gone before the first byte is written, so where the disk fails
on the way the file is left with the bytes that were written by then. -/
def store (disk : Disk) (tree : FileTree) (path : Path) (content : List UInt8) :
    FileTree × Option FileFault :=
  match tree.writable path with
  | .error fault => (tree, some fault)
  | .ok location =>
    match disk.cut? location content with
    | none => (tree.put location (.file content), none)
    | some cut => (tree.put location (.file (content.take cut.kept)), some cut.fault)

def write (tree : FileTree) (path : Path) (content : List UInt8) : Except FileFault FileTree :=
  match tree.store soundDisk path content with
  | (after, none) => .ok after
  | (_, some fault) => .error fault

def makeDirectoriesAlong (tree : FileTree) (start : Location) (done : List FileName) :
    List FileName → FileTree
  | [] => tree
  | part :: rest =>
    let path := done ++ [part]
    let tree :=
      match tree.resolveFrom { followLast := false, allowNew := true } linkLimit start path with
      | .ok location => if (tree.node? location).isNone then tree.put location .directory else tree
      | .error _ => tree
    tree.makeDirectoriesAlong start path rest

def makeDirectories (tree : FileTree) (path : Path) : FileTree :=
  tree.makeDirectoriesAlong (tree.start path) [] (Path.parts path)

def makeParents (tree : FileTree) (path : Path) : FileTree :=
  tree.makeDirectoriesAlong (tree.start path) [] (Path.parts path).dropLast

def makeLink (tree : FileTree) (path target : Path) : Except FileFault FileTree := do
  let location ← tree.resolve path { followLast := false, allowNew := true }
  .ok (tree.put location (.link target))

def remove (tree : FileTree) (path : Path) : Except FileFault FileTree := do
  let location ← tree.resolve path { followLast := false }
  match tree.node? location with
  | some .directory => .error .isDirectory
  | _ => .ok (tree.drop location)

end FileTree

end DialogueScript
