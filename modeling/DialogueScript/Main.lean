import DialogueScript.Command.Duration
import DialogueScript.Command.Run

/- The program. It takes a picture of the files that a run can see, runs on the picture, and writes
   out what the run says and the one file that it may have changed. -/
namespace DialogueScript.Main

structure Picture where
  tree : FileTree
  complete : List Location := []

def Picture.put (picture : Picture) (path : String) (node : FileNode) : Picture :=
  match Path.steps path with
  | [] => picture
  | location => { picture with tree := (picture.tree.makeParents path).put location node }

def kind? (path : String) : IO (Option IO.FS.FileType) := do
  try return some (← ((← IO.FS.realPath "/") / path).symlinkMetadata).type catch _ => return none

/-- The path that a link leads to in the end. One that leads nowhere has a target that cannot
exist. -/
def linkTarget (path : String) : IO String := do
  try return (← IO.FS.realPath path).toString catch _ => return "/\x00"

def joined (directory name : String) : String :=
  (Path.join directory (Text.encode name)).shown

partial def takeIn (picture : Picture) (path : String) : IO Picture := do
  match ← kind? path with
  | some .file => return picture.put path (.file (← IO.FS.readBinFile path).data.toList)
  | some .symlink =>
    let target ← linkTarget path
    takeIn (picture.put path (.link target)) target
  | some .dir =>
    let location := Path.steps path
    if location ∈ picture.complete then return picture
    let mut picture := picture.put path .directory
    picture := { picture with complete := location :: picture.complete }
    for entry in ← (← IO.FS.realPath path).readDir do
      picture ← takeIn picture (joined path entry.fileName)
    return picture
  | _ => return picture

partial def takeInAlong (picture : Picture) (here : String) : List String → IO Picture
  | [] => takeIn picture here
  | "" :: rest | "." :: rest => takeInAlong picture here rest
  | ".." :: rest => do
    let around := (Path.steps here).dropLast.map Text.shown
    takeInAlong picture ("/" ++ "/".intercalate around) rest
  | part :: rest => do
    let path := joined here part
    match ← kind? path with
    | some .dir => takeInAlong (picture.put path .directory) path rest
    | some .symlink =>
      let target ← linkTarget path
      takeInAlong (picture.put path (.link target)) target rest
    | _ => takeIn picture path

def pictureOf (paths : List String) : IO FileTree := do
  let home := (← IO.currentDir).toString
  let mut picture : Picture := { tree := { home := Path.steps home } }
  picture := { picture with tree := picture.tree.makeDirectories home }
  for path in paths do
    let start := if Path.isAbsolute path then "/" else home
    picture ← takeInAlong picture start ((Path.parts path).map Text.shown)
  return picture.tree

def carryOver (path : String) (before after : FileTree) : IO Unit := do
  match after.read path with
  | .ok content =>
    if (before.read path).toOption ≠ some content then IO.FS.writeBinFile path ⟨content.toArray⟩
  | .error _ => return

def tell (outcome : Command.Outcome) : IO UInt32 := do
  IO.eprint outcome.stderr
  IO.print outcome.stdout
  return UInt32.ofNat outcome.exit

def runFor (configuration : Command.Configuration) : IO UInt32 := do
  let seen := [configuration.cache, configuration.synonyms, configuration.out].filterMap id
  let started ← IO.monoNanosNow
  let tree ← pictureOf (configuration.root :: seen)
  let scanned ← IO.monoNanosNow
  let result ← IO.lazyPure fun _ => configuration.rebuild tree
  let finished ← IO.monoNanosNow
  let wording : Command.Wording := {
    elapsed := fun
      | .scan => Command.duration (scanned - started)
      | _ => Command.duration (finished - started)
    malformed := "malformed JSON" }
  let outcome := Command.conclude soundDisk wording configuration tree result
  for path in configuration.out.toList do
    carryOver path tree outcome.tree
  tell outcome

end DialogueScript.Main

def main (arguments : List String) : IO UInt32 := do
  let color ← (← IO.getStderr).isTty
  match DialogueScript.Command.parse color arguments with
  | .error diversion => DialogueScript.Main.tell (DialogueScript.Command.divert {} diversion)
  | .ok configuration => DialogueScript.Main.runFor configuration
