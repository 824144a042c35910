/- The arguments of the command line. -/
namespace DialogueScript.Command

structure Configuration where
  root : String
  out : Option String := none
  cache : Option String := none
  synonyms : Option String := none
  extension : String := "ss"
  keepGoing : Bool := false
  strictTopics : Bool := false
  color : Bool := false
deriving DecidableEq, Repr

inductive Setting where
  | out
  | cache
  | synonyms
  | extension
deriving DecidableEq, Repr

def Setting.all : List Setting := [.out, .cache, .synonyms, .extension]

def Setting.spelling : Setting → String
  | .out => "--out"
  | .cache => "--cache"
  | .synonyms => "--synonyms"
  | .extension => "--ext"

inductive UsageFault where
  | noValue (setting : Setting)
  | unknownOption (argument : String)
  | secondRoot
  | noRoot
  | emptyExtension
deriving DecidableEq, Repr

inductive Diversion where
  | help
  | version
  | fault (fault : UsageFault)
deriving DecidableEq, Repr

structure Draft where
  root : Option String := none
  out : Option String := none
  cache : Option String := none
  synonyms : Option String := none
  extension : String := "ss"
  keepGoing : Bool := false
  strictTopics : Bool := false
  color : Bool := false
deriving DecidableEq, Repr

def Draft.set (draft : Draft) (value : String) : Setting → Draft
  | .out => { draft with out := some value }
  | .cache => { draft with cache := some value }
  | .synonyms => { draft with synonyms := some value }
  | .extension => { draft with extension := value }

def dropRepeated (word : List Char) : (times : Nat) → List Char → List Char
  | 0, text => text
  | times + 1, text =>
    if word.isPrefixOf text then dropRepeated word times (text.drop word.length) else text

def namedSetting? (argument : String) : Option Setting :=
  if argument = "-o" then some .out else Setting.all.find? (·.spelling == argument)

/-- The option that an argument sets by itself, and the value after the equals sign. The spelling
with its sign may be repeated, to no effect. -/
def assignment? (argument : String) : Option (Setting × String) :=
  let text := argument.toList
  Setting.all.findSome? fun setting =>
    let word := (setting.spelling ++ "=").toList
    if word.isPrefixOf text then
      some (setting, String.ofList (dropRepeated word text.length text))
    else none

def Draft.switch? (draft : Draft) : String → Option Draft
  | "--color" => some { draft with color := true }
  | "--no-color" => some { draft with color := false }
  | "--keep-going" => some { draft with keepGoing := true }
  | "--strict-topics" => some { draft with strictTopics := true }
  | _ => none

def Draft.take (draft : Draft) (argument : String) : Except Diversion Draft :=
  if argument = "-h" ∨ argument = "--help" then .error .help
  else if argument = "-V" ∨ argument = "--version" then .error .version
  else
    match draft.switch? argument, assignment? argument with
    | some draft, _ => .ok draft
    | none, some (setting, value) => .ok (draft.set value setting)
    | none, none =>
      if argument.toList.head? = some '-' then .error (.fault (.unknownOption argument))
      else if draft.root.isSome then .error (.fault .secondRoot)
      else .ok { draft with root := some argument }

def Draft.takeAll (draft : Draft) : List String → Except Diversion Draft
  | [] => .ok draft
  | [argument] =>
    match namedSetting? argument with
    | some setting => .error (.fault (.noValue setting))
    | none => draft.take argument
  | argument :: value :: rest =>
    match namedSetting? argument with
    | some setting => (draft.set value setting).takeAll rest
    | none =>
      match draft.take argument with
      | .ok draft => draft.takeAll (value :: rest)
      | .error diversion => .error diversion

def Draft.finish (draft : Draft) : Except Diversion Configuration :=
  match draft with
  | { root, out, cache, synonyms, extension, keepGoing, strictTopics, color } =>
    match root with
    | none => .error (.fault .noRoot)
    | some root =>
      if extension.toList.all (· == '.') then .error (.fault .emptyExtension)
      else .ok { root, out, cache, synonyms, extension, keepGoing, strictTopics, color }

def parse (color : Bool) (arguments : List String) : Except Diversion Configuration := do
  (← Draft.takeAll { color } arguments).finish

def programVersion : String := "parlance 0.1.0"

def helpText : String :=
  programVersion ++ "

Compiles a directory of chat scripts into a knowledge base.

Usage:
  parlance [OPTIONS] <root>

Options:
  -o, --out <file>           Write the knowledge base here instead of stdout.
  --cache <file>             Previous knowledge base (or bare checksum map).
                             When every script still matches it nothing is
                             written; otherwise all scripts are recompiled.
                             An empty result never replaces an existing --out.
  --synonyms <file>          JSON object of word -> [synonyms] used to expand
                             ~concepts in triggers.
  --ext <extension>          Script file extension. Default: ss
  --keep-going               Skip scripts that fail instead of aborting.
  --strict-topics            Fail when a topic is declared more than once,
                             in one script or across scripts.
  --color                    Force ANSI color output.
  --no-color                 Disable ANSI color output.
  -h, --help                 Show this help message.
  -V, --version              Print version information.

Logging goes to stderr; set RUST_LOG (default: parlance=info).

Exit codes:
  0  Success.
  1  Compile error, scripts skipped with --keep-going, or an empty
     knowledge base that was not written over --out.
  2  Invalid arguments or missing root.
"

def UsageFault.message : UsageFault → String
  | .noValue setting => s!"error: {setting.spelling} expects a value"
  | .unknownOption argument => s!"error: unknown option '{argument}'"
  | .secondRoot => "error: root directory provided multiple times"
  | .noRoot => s!"error: no root directory provided\n\n{helpText}"
  | .emptyExtension => "error: --ext must not be empty"

end DialogueScript.Command
