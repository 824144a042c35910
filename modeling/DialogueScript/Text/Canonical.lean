import DialogueScript.Text.Blank
import DialogueScript.Text.Lowercase
import DialogueScript.Text.WordCharacter

/- Canonical text: lowercase, plain quotes and dashes, contractions spelled out, single spaces.
   "I'm", "i am" and "I  AM" have the same canonical form. The contractions are English. -/
namespace DialogueScript.Text

inductive Segment where
  | run (word : List Char)
  | mark (c : Char)
deriving DecidableEq, Repr

def Segment.toList : Segment → List Char
  | .run word => word
  | .mark c => [c]

def segments : List Char → List Segment
  | [] => []
  | c :: rest =>
    if isWordCharacter c then
      match segments rest with
      | .run word :: others => .run (c :: word) :: others
      | others => .run [c] :: others
    else .mark c :: segments rest

/-- One row of the contraction table. In each, a run of word characters, an apostrophe and a second
run give way to a phrase. -/
inductive Contraction where
  /-- Exactly this first run; the phrase replaces the whole. -/
  | whole (first second phrase : List Char)
  /-- Any of these first runs; it stays and the phrase follows it. -/
  | among (firsts : List (List Char)) (second phrase : List Char)
  /-- Any first run with this ending and at least one character before it. The ending is dropped and
  the phrase follows. -/
  | ending (dropped second phrase : List Char)
deriving DecidableEq, Repr

def Contraction.expand? : Contraction → (before after : List Char) → Option (List Char)
  | .whole first second phrase, before, after =>
    if before = first ∧ after = second then some phrase else none
  | .among firsts second phrase, before, after =>
    if before ∈ firsts ∧ after = second then some (before ++ phrase) else none
  | .ending dropped second phrase, before, after =>
    if dropped.length < before.length ∧ dropped <:+ before ∧ after = second then
      some (before.take (before.length - dropped.length) ++ phrase)
    else none

/-- Applies a contraction from left to right. A run that was used as the second of a contraction is
not the first of another one. -/
def Contraction.applyTo (rule : Contraction) : List Segment → List Char
  | [] => []
  | .mark c :: rest => c :: rule.applyTo rest
  | .run before :: .mark mark :: .run after :: rest =>
    match if mark = '\'' then rule.expand? before after else none with
    | some phrase => phrase ++ rule.applyTo rest
    | none => before ++ mark :: rule.applyTo (.run after :: rest)
  | .run word :: rest => word ++ rule.applyTo rest

/-- The table. Earlier rows win, so the particular forms stand before the general endings. -/
def contractions : List Contraction :=
  [.whole "i".toList "m".toList "i am".toList,
    .whole "can".toList "t".toList "cannot".toList,
    .whole "won".toList "t".toList "will not".toList,
    .whole "shan".toList "t".toList "shall not".toList,
    .whole "ain".toList "t".toList "is not".toList,
    .whole "let".toList "s".toList "let us".toList,
    .among
      (["it", "that", "what", "there", "here", "who", "where", "how", "he", "she"].map
        String.toList)
      "s".toList " is".toList,
    .whole "y".toList "all".toList "you all".toList,
    .ending "n".toList "t".toList " not".toList,
    .ending [] "re".toList " are".toList,
    .ending [] "ll".toList " will".toList,
    .ending [] "ve".toList " have".toList,
    .ending [] "d".toList " would".toList]

def plainMark (c : Char) : Char :=
  if c ∈ ['‘', '’', 'ʼ', '`'] then '\''
  else if c ∈ ['“', '”'] then '"'
  else if c ∈ ['–', '—'] then '-'
  else c

def spellOut (text : List Char) : List Char :=
  contractions.foldl (fun text rule => rule.applyTo (segments text)) text

def spellAmpersand (c : Char) : List Char := if c = '&' then " and ".toList else [c]

def canonicalChars (text : List Char) : List Char :=
  unwords (words ((spellOut ((lowercase text).map plainMark)).flatMap spellAmpersand))

def canonical (text : String) : String := String.ofList (canonicalChars text.toList)

end DialogueScript.Text
