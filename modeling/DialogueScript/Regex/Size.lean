import DialogueScript.Regex.Automaton
import DialogueScript.Regex.Normal
import DialogueScript.Text.ByteSpan
import DialogueScript.Text.Utf8

/- Whether an expression fits into memory. A search uses two automata, one that reads forward and
   tells captures, and one that reads backward, and both must fit. The parts of an automaton follow
   the normal form; each part tells whether its last state is a fork. -/
namespace DialogueScript.Regex

inductive Direction where
  | forward
  | backward
deriving DecidableEq, Repr

def leads [BEq α] (words : List (List α)) : List α := (words.filterMap List.head?).eraseDups

def tailsAfter [BEq α] (lead : α) (words : List (List α)) : List (List α) :=
  (words.filter (·.head? == some lead)).map List.tail

def forwardSlots : Nat := 10000

def backwardSlots : Nat := 1000

/-- The state from which words over byte spans, up to some length, lead to a target. States from
which the same words lead there are shared. -/
def addSuffixes (target : Nat) : (length : Nat) → List (List Text.Span) → Sharing Nat
  | 0, _ => return target
  | length + 1, words =>
    if words.all List.isEmpty then return target
    else do
      let transitions ← (leads words).mapM fun lead => do
        let next ← addSuffixes target length (tailsAfter lead words)
        return [lead.first, lead.last, next]
      share forwardSlots transitions.flatten transitions.length

/-- The state from which a word, read backward, leads to a target. Words with the same beginning
share the states for it. -/
def addBeginnings (target : Nat) (word : List Text.Span) : Sharing Nat :=
  word.foldlM (fun next span => share backwardSlots [next, span.first, span.last] 0) target

def addSet (direction : Direction) (spans : List Text.Span) (words : List (List Text.Span)) :
    Assembly Bool := do
  if spans.all (·.last < 0x80) then
    grow 2 (transitionBytes * spans.length)
  else
    match direction with
    | .forward =>
      let target ← addState 0
      let _ ← (addSuffixes target 4 words).run []
    | .backward =>
      addFork words.length
      let target ← addState 0
      let _ ← (words.mapM (addBeginnings target)).run []
  return false

/-- The branching of a tree of words up to some length. The order of the words counts: one that
ends where others go on ends a run of transitions. -/
def addTree : (length : Nat) → List (List UInt8) → Assembly Unit
  | 0, _ => return ()
  | length + 1, words => do
    if !words.all List.isEmpty then
      let opening := if words.head?.any List.isEmpty then [[]] else []
      let runs := (opening ++ words.dropWhile List.isEmpty).splitOnP List.isEmpty
      runs.forM fun run => do
        (leads run).forM fun lead => addTree length (tailsAfter lead run)
        match (leads run).length with
        | 0 => return ()
        | 1 => grow 1 0
        | several => grow 1 (transitionBytes * several)
      addFork ((runs.filter (!·.isEmpty)).length + (runs.length - 1))

def textBytes (chars : List Char) : List UInt8 := Text.encode (String.ofList chars)

def addTexts (direction : Direction) (texts : List (List Char)) : Assembly Bool := do
  let words := texts.map fun chars =>
    match direction with
    | .forward => textBytes chars
    | .backward => (textBytes chars).reverse
  grow 1 0
  addTree (words.foldl (fun length word => max length word.length) 0) words
  return false

/-- A branch of a choice. Texts are kept apart, since a choice between them makes a tree. -/
inductive Branch where
  | text (chars : List Char)
  | part (add : Assembly Bool)

def Branch.add : Branch → Assembly Bool
  | .text chars => do
    grow (textBytes chars).length 0
    return false
  | .part add => add

def Branch.text? : Branch → Option (List Char)
  | .text chars => some chars
  | .part _ => none

def Branch.addLinked (branch : Branch) : Assembly Unit := do
  linkFrom (← branch.add)
  grow 0 linkBytes

def addChoice (direction : Direction) : List Branch → Assembly Bool
  | [branch] => branch.add
  | branches =>
    match branches.mapM Branch.text? with
    | some texts => addTexts direction texts
    | none => do
      (branches.take 2).forM Branch.addLinked
      addFork 0
      grow 1 0
      (branches.drop 2).forM Branch.addLinked
      return false

def addCopies (part : Assembly Bool) : (count : Nat) → Assembly Bool
  | 0 => do
    grow 1 0
    return false
  | 1 => part
  | count + 2 => do
    linkFrom (← part)
    addCopies part (count + 1)

/-- So many copies in a row, each with a fork in front by which the rest can be left out. -/
def addOptionalCopies (part : Assembly Bool) : (count : Nat) → Assembly Unit
  | 0 => return ()
  | count + 1 => do
    addFork 2
    linkFrom (← part)
    addOptionalCopies part count

def addRepeated (part : Assembly Bool) (isConsuming : Bool) (least : Nat) :
    (most : Option Nat) → Assembly Bool
  | none => do
    if 0 < least then
      linkFrom (← addCopies part least)
      addFork 1
      return true
    else if isConsuming then
      addFork 1
      linkFrom (← part)
      return true
    else
      linkFrom (← part)
      addFork 2
      addFork 2
      grow 1 0
      return false
  | some most => do
    if least = most then addCopies part least
    else if least = 0 ∧ most = 1 then
      addOptionalCopies part 1
      grow 1 0
      return false
    else
      linkFrom (← addCopies part least)
      grow 1 0
      addOptionalCopies part (most - least)
      return false

/-- A group. Only the automaton that reads forward tells where a captured one starts and ends. -/
def addGroup (direction : Direction) (captured : Bool) (part : Assembly Bool) : Assembly Bool := do
  if captured ∧ direction = .forward then
    grow 1 0
    linkFrom (← part)
    grow 1 0
    return false
  else part

namespace NormalForm

def branches (direction : Direction) : NormalForm → List Branch
  | .empty | .atStart | .atEnd => [.part (addCopies (return false) 0)]
  | .one (.text chars) => [.text chars]
  | .one (.oneOf spans) => [.part (addSet direction spans (spans.flatMap Text.Span.bytes))]
  | .seq first second =>
    let first := addChoice direction (branches direction first)
    let second := addChoice direction (branches direction second)
    match direction with
    | .forward => [.part do linkFrom (← first); second]
    | .backward => [.part do linkFrom (← second); first]
  | .alt left right => branches direction left ++ branches direction right
  | .repeated body least most _ =>
    let part := addChoice direction (branches direction body)
    [.part (addRepeated part (isConsuming body) least most)]
  | .group captured body =>
    [.part (addGroup direction captured (addChoice direction (branches direction body)))]

/-- The whole automaton, which captures what it matches. If it may begin anywhere, then it skips
bytes first. -/
def addWhole (direction : Direction) (form : NormalForm) : Assembly Unit := do
  let isFixed :=
    match direction with
    | .forward => opensAtStart form
    | .backward => closesAtEnd form
  if isFixed then grow 1 0 else grow 3 (transitionBytes + 2 * linkBytes)
  linkFrom (← addGroup direction true (addChoice direction (branches direction form)))
  grow 1 0

def automaton? (form : NormalForm) (direction : Direction) : Option Automaton :=
  ((form.addWhole direction).run {}).map (·.2)

end NormalForm

def fits (regex : Regex CharTest) : Bool :=
  let form := regex.normalForm
  (form.automaton? .forward).isSome && (form.automaton? .backward).isSome

end DialogueScript.Regex
