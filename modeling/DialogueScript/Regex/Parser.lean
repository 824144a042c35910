import DialogueScript.Regex.Literal
import DialogueScript.Regex.Size

/- Reading an expression from its text: literals and escapes, ".", "\s", "\S", plain character
   sets, groups, "|", and the repetitions "*", "+", "?" and counts in braces. A group is captured
   unless it opens with "(?:", and a repetition is eager unless a question mark follows it. -/
namespace DialogueScript.Regex

inductive Token where
  | test (test : CharTest)
  | atStart
  | atEnd
  | groupOpen (captured : Bool)
  | groupClose
  | bar
  | times (least : Nat) (most : Option Nat) (eager : Bool)
deriving DecidableEq, Repr

def readNumber? (text : List Char) : Option Nat :=
  if text.isEmpty || !text.all Char.isDigit then none
  else some (text.foldl (fun value c => 10 * value + (c.toNat - '0'.toNat)) 0)

structure Counts where
  least : Nat
  most : Option Nat
deriving DecidableEq, Repr

def readCounts? (body : List Char) : Option Counts :=
  match body.splitOn ',' with
  | [count] => (readNumber? count).map fun n => ⟨n, some n⟩
  | [least, most] =>
    if most.isEmpty then (readNumber? least).map fun n => ⟨n, none⟩
    else do
      let least ← readNumber? least
      let most ← readNumber? most
      if least ≤ most then some ⟨least, some most⟩ else none
  | _ => none

/-- A repetition that takes up this many characters beyond the first, and one more if it is
followed by a question mark. -/
def repetition (counts : Counts) (taken : Nat) (rest : List Char) : Token × Nat :=
  if rest.head? = some '?' then (.times counts.least counts.most false, taken + 1)
  else (.times counts.least counts.most true, taken)

def isPlainInSet (c : Char) : Bool := !(['\\', '[', '^', '-', '&', '~'].contains c)

def readToken? (c : Char) (rest : List Char) : Option (Token × Nat) :=
  match c with
  | '\\' =>
    match rest with
    | 's' :: _ => some (.test .blank, 1)
    | 'S' :: _ => some (.test .notBlank, 1)
    | d :: _ =>
      let plain := if isEscapable d then some d else controlCharacter? d
      plain.map fun c => (.test (.literal c), 1)
    | [] => none
  | '.' => some (.test .notLineFeed, 0)
  | '^' => some (.atStart, 0)
  | '$' => some (.atEnd, 0)
  | '(' =>
    match rest with
    | '?' :: ':' :: _ => some (.groupOpen false, 2)
    | '?' :: _ => none
    | _ => some (.groupOpen true, 0)
  | ')' => some (.groupClose, 0)
  | '|' => some (.bar, 0)
  | '*' => some (repetition ⟨0, none⟩ 0 rest)
  | '+' => some (repetition ⟨1, none⟩ 0 rest)
  | '?' => some (repetition ⟨0, some 1⟩ 0 rest)
  | '{' =>
    let body := rest.takeWhile (· != '}')
    match rest.drop body.length with
    | [] => none
    | _ :: after => (readCounts? body).map fun counts => repetition counts (body.length + 1) after
  | '[' =>
    let body := rest.takeWhile (· != ']')
    if body.isEmpty || (rest.drop body.length).isEmpty || !body.all isPlainInSet then none
    else some (.test (.anyOf body), body.length + 1)
  | _ => some (.test (.literal c), 0)

/-- The tokens of a text whose first `pending` characters belong to the token before. -/
def tokensAfter? : (pending : Nat) → List Char → Option (List Token)
  | _, [] => some []
  | pending + 1, _ :: rest => tokensAfter? pending rest
  | 0, c :: rest => do
    let (token, taken) ← readToken? c rest
    let tokens ← tokensAfter? taken rest
    return token :: tokens

def tokens? (text : List Char) : Option (List Token) := tokensAfter? 0 text

/-- An expression in the making, inside of a group that may be captured: the branches that are
done, and the items of the last branch, newest first. -/
structure Level where
  captured : Bool := false
  branches : Option (Regex CharTest) := none
  items : List (Regex CharTest) := []
deriving DecidableEq, Repr

def Level.push (level : Level) (item : Regex CharTest) : Level :=
  { level with items := item :: level.items }

def Level.branch (level : Level) : Regex CharTest :=
  level.items.foldl (fun later item => .seq item later) .empty

def Level.toRegex (level : Level) : Regex CharTest :=
  match level.branches with
  | none => level.branch
  | some left => .alt left level.branch

def parseTokens? (level : Level) (outer : List Level) : List Token → Option (Regex CharTest)
  | [] => if outer.isEmpty then some level.toRegex else none
  | .test test :: rest => parseTokens? (level.push (.one test)) outer rest
  | .atStart :: rest => parseTokens? (level.push .atStart) outer rest
  | .atEnd :: rest => parseTokens? (level.push .atEnd) outer rest
  | .groupOpen captured :: rest => parseTokens? { captured } (level :: outer) rest
  | .groupClose :: rest =>
    match outer with
    | [] => none
    | around :: outer =>
      parseTokens? (around.push (.group level.captured level.toRegex)) outer rest
  | .bar :: rest =>
    parseTokens? { level with branches := some level.toRegex, items := [] } outer rest
  | .times least most eager :: rest =>
    match level.items with
    | [] => none
    | item :: items =>
      parseTokens? { level with items := .repeated item least most eager :: items } outer rest

inductive BuildFault where
  | malformed
  | tooLarge
deriving DecidableEq, Repr

def BuildFault.message : BuildFault → String
  | .malformed => "regex parse error"
  | .tooLarge => s!"Compiled regex exceeds size limit of {sizeLimit} bytes."

def build (text : List Char) : Except BuildFault (Regex CharTest) :=
  match (tokens? text).bind (parseTokens? {} []) with
  | none => .error .malformed
  | some regex => if regex.fits then .ok regex else .error .tooLarge

abbrev Engine := List Char → Except String (List Char → Bool)

def engine : Engine := fun text =>
  match build text with
  | .error fault => .error fault.message
  | .ok regex => .ok regex.matchesIn

end DialogueScript.Regex
