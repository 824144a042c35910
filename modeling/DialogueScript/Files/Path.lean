import DialogueScript.Text.Utf8

/- Paths and names as a file system has them. They are bytes and need not be text. What is shown of
   a path is text, so two paths can look the same. -/
namespace DialogueScript

abbrev FileName := List UInt8

structure Path where
  bytes : List UInt8
deriving DecidableEq, Repr

namespace Path

def ofText (text : String) : Path := ⟨Text.encode text⟩

instance : Coe String Path := ⟨ofText⟩

def shown (path : Path) : String := Text.shown path.bytes

def slash : UInt8 := 0x2F

def dot : UInt8 := 0x2E

def self : FileName := [dot]

def above : FileName := [dot, dot]

/-- The parts of a path. Repeated slashes count once. A slash at the end asks for a directory and is
a last part that is empty. -/
def parts (path : Path) : List FileName :=
  let pieces := path.bytes.splitOn slash
  let names := pieces.filter (!·.isEmpty)
  if pieces.getLast? = some [] then names ++ [[]] else names

def isAbsolute (path : Path) : Bool := path.bytes.head? == some slash

def byteLimit : Nat := 4096

def isTooLong (path : Path) : Bool := byteLimit ≤ path.bytes.length

def nameBytes : Nat := 255

def isName (name : FileName) : Bool :=
  name != [] && name != self && name != above && !name.contains slash

def endsWithSlash (path : Path) : Bool := path.bytes.getLast? == some slash

def join (directory : Path) (name : FileName) : Path :=
  if endsWithSlash directory then ⟨directory.bytes ++ name⟩
  else ⟨directory.bytes ++ slash :: name⟩

def steps (path : Path) : List FileName :=
  (parts path).filter fun part => part != [] && part != self

def fileName? (path : Path) : Option FileName := (steps path).getLast?.filter (· != above)

/-- What follows the last dot of a name. A dot at the beginning starts no extension. -/
def extension? (name : FileName) : Option FileName :=
  match name.reverse.span (· != dot) with
  | (_, []) => none
  | (_, [_]) => none
  | (reversed, _) => some reversed.reverse

end Path

end DialogueScript
