import DialogueScript.Compile.Options
import DialogueScript.Compile.SourceError
import DialogueScript.Concept.Expansion
import DialogueScript.Graph.Diagnostic
import DialogueScript.Text.Canonical

/- Clean patterns of triggers: the canonical text is read by the grammar, then its concepts are
   expanded. -/
namespace DialogueScript

def Options.cleanPattern (options : Options) (text : String) : Except SourceError String :=
  match options.grammar text with
  | .ok clean => .ok clean
  | .error refusal => .error (.badPattern text refusal)

def Options.cleanTrigger (options : Options) (raw : String) : Except SourceError String :=
  options.cleanPattern (Text.canonical raw)

def Options.compileTrigger (options : Options) (expand : String → List String) (raw : String) :
    Except SourceError Concept.Expansion :=
  (options.cleanTrigger raw).map (Concept.expandPattern expand)

def Options.wordsOfTrigger (options : Options) (raw : String) : List String :=
  ((options.cleanTrigger raw).toOption.map Concept.wordsToAsk).getD []

def Options.expander (options : Options) : Concept.Expander := { sources := options.sources }

def normalizeTrigger (options : Options) (raw : String) : Except SourceError String :=
  let expander := options.expander.learn (options.wordsOfTrigger raw)
  (options.compileTrigger expander.recall raw).map (·.clean)

namespace Graph

def Gambit.compileTrigger (options : Options) (expand : String → List String) (gambit : Gambit) :
    Except SourceError (Gambit × List Diagnostic) :=
  match gambit.trigger with
  | none => .ok (gambit, [])
  | some trigger =>
    (options.compileTrigger expand trigger.raw).map fun expansion =>
      ({ gambit with trigger := some { trigger with clean := some expansion.clean } },
        expansion.unexpanded.map (.conceptNotExpanded gambit.id))

def failure? : Except ε α → Option ε
  | .ok _ => none
  | .error error => some error

/-- Revises every gambit in the order of the identifiers. The first failure is the failure of the
whole, and what the revisions have to tell is put together in order. -/
def revise (change : Gambit → Except ε (Gambit × List Diagnostic)) (graph : Graph) :
    Except ε (Graph × List Diagnostic) :=
  let outcomes := graph.gambits.map fun _ gambit => change gambit
  match outcomes.values.findSome? failure? with
  | some error => .error error
  | none =>
    .ok ({ graph with gambits := outcomes.filterMap fun _ outcome => outcome.toOption.map (·.1) },
      outcomes.values.flatMap fun outcome => (outcome.toOption.map (·.2)).getD [])

def Gambit.wordsToAsk (options : Options) (gambit : Gambit) : List String :=
  (gambit.trigger.map fun trigger => options.wordsOfTrigger trigger.raw).getD []

/-- Compiles the triggers of a graph. All the words for its concepts are asked for first. The
expander is handed on with what it remembers then. -/
def compileTriggers (options : Options) (expander : Concept.Expander) (graph : Graph) :
    Except SourceError (Graph × List Diagnostic) × Concept.Expander :=
  let expander := expander.learn (graph.gambits.values.flatMap (Gambit.wordsToAsk options))
  (graph.revise (Gambit.compileTrigger options expander.recall), expander)

end Graph

end DialogueScript
