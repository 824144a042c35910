import DialogueScript.Text.Lowercase
import Std.Data.ExtTreeMap

/- Where the words for a concept come from: facts are asked first, a dictionary of synonyms second.
   Asking is remembered, and the remembered answers are those that asking anew would give. -/
namespace DialogueScript.Concept

/-- Answers a word with a list of words. No answer stands for a failed lookup. -/
abbrev Source := String → Option (List String)

structure Sources where
  facts : Option Source := none
  dictionary : Option Source := none

def lowercase (word : String) : String := String.ofList (Text.lowercase word.toList)

def phrase (entry : String) : String :=
  String.ofList (entry.toList.map fun c => if c = '_' then ' ' else c)

def Sources.fromFacts (sources : Sources) (word : String) : List String :=
  ((sources.facts.bind (· (lowercase word))).getD [])

def Sources.fromDictionary (sources : Sources) (word : String) : List String :=
  ((sources.dictionary.bind (· word)).getD []).map phrase

def Sources.expand (sources : Sources) (word : String) : List String :=
  let known := sources.fromFacts word
  if known.isEmpty then sources.fromDictionary word else known

inductive Origin where
  | facts
  | dictionary
deriving DecidableEq, Repr

structure Call where
  origin : Origin
  word : String
deriving DecidableEq, Repr

def Sources.calls (sources : Sources) (word : String) : List Call :=
  let toFacts := if sources.facts.isSome then [⟨.facts, lowercase word⟩] else []
  let toDictionary :=
    if sources.dictionary.isSome && (sources.fromFacts word).isEmpty then [⟨.dictionary, word⟩]
    else []
  toFacts ++ toDictionary

/-- Sources with the answers given so far, under the exact spelling that was asked. -/
structure Expander where
  sources : Sources
  remembered : Std.ExtTreeMap String (List String) := ∅

structure Step where
  words : List String
  calls : List Call
deriving DecidableEq, Repr

def Expander.expand (expander : Expander) (word : String) : Step × Expander :=
  match expander.remembered[word]? with
  | some words => (⟨words, []⟩, expander)
  | none =>
    let words := expander.sources.expand word
    (⟨words, expander.sources.calls word⟩,
      { expander with remembered := expander.remembered.insert word words })

def Expander.recall (expander : Expander) (word : String) : List String :=
  (expander.remembered[word]?).getD []

def Expander.learn (expander : Expander) : List String → Expander
  | [] => expander
  | word :: rest => (expander.expand word).2.learn rest

def Expander.expandAll (expander : Expander) : List String → List Step
  | [] => []
  | word :: rest =>
    let (step, expander) := expander.expand word
    step :: expander.expandAll rest

end DialogueScript.Concept
