import DialogueScript.Compile.Error
import DialogueScript.Compile.Source

/- Compiling a script file. Its path, as it is shown, is the scope of its identifiers. -/
namespace DialogueScript

def compileBytes (options : Options) (expander : Concept.Expander) (path : String)
    (content : List UInt8) : Except CompileError CompiledScript × Concept.Expander :=
  match Text.decode content with
  | .error fault => (.error (.file path (.notUtf8 fault)), expander)
  | .ok text =>
    let (compiled, expander) := compileText options expander path text
    (compiled.mapError (.file path), expander)

def readFile (tree : FileTree) (path : Path) : Except CompileError (List UInt8) :=
  match tree.read path with
  | .error fault => .error (.read path.shown fault)
  | .ok content => .ok content

def compileFile (options : Options) (tree : FileTree) (path : Path) :
    Except CompileError CompiledScript := do
  (compileBytes options options.expander path.shown (← readFile tree path)).1

end DialogueScript
