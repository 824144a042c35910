import DialogueScript.Compile.Directory
import DialogueScript.Proofs.Tables
import Mathlib.Data.List.Basic

/- An expander that remembers gives the answers that asking anew would give, so it makes no
   difference how many scripts share it and what was asked before. -/
namespace DialogueScript
open Std

namespace Concept

/-- All that an expander remembers is what its sources say. -/
structure Expander.Faithful (expander : Expander) (sources : Sources) : Prop where
  same : expander.sources = sources
  true_memory : ∀ (word : String) words, expander.remembered[word]? = some words →
    words = sources.expand word

theorem new_expander_faithful (sources : Sources) : Expander.Faithful { sources } sources :=
  ⟨rfl, by simp⟩

def Expander.answer (expander : Expander) (word : String) : List String :=
  (expander.expand word).1.words

theorem answer_eq (expander : Expander) (word : String) :
    expander.answer word = (expander.remembered[word]?).getD (expander.sources.expand word) := by
  simp only [Expander.answer, Expander.expand]
  cases expander.remembered[word]? <;> rfl

theorem expand_keeps_sources (expander : Expander) (word : String) :
    (expander.expand word).2.sources = expander.sources := by
  simp only [Expander.expand]
  split <;> rfl

theorem expand_remembers (expander : Expander) (word other : String) :
    (expander.expand word).2.remembered[other]? =
      if word = other then some (expander.answer word) else expander.remembered[other]? := by
  rw [answer_eq]
  simp only [Expander.expand]
  cases found : expander.remembered[word]? with
  | some words =>
    by_cases same : word = other
    · rw [if_pos same, ← same, found, Option.getD_some]
    · rw [if_neg same]
  | none => rw [lookup_insert, Option.getD_none]

theorem answer_after_expand (expander : Expander) (word other : String) :
    (expander.expand word).2.answer other = expander.answer other := by
  rw [answer_eq, expand_remembers, expand_keeps_sources]
  by_cases same : word = other
  · rw [if_pos same, Option.getD_some, same]
  · rw [if_neg same, answer_eq]

theorem learn_remembers (expander : Expander) (words : List String) (word : String) :
    (expander.learn words).remembered[word]? =
      if word ∈ words then some (expander.answer word) else expander.remembered[word]? := by
  induction words generalizing expander with
  | nil => rfl
  | cons other rest ih =>
    rw [Expander.learn, ih, answer_after_expand, expand_remembers]
    by_cases same : other = word
    · simp [same]
    · simp [same, Ne.symm same]

theorem recall_learned {expander : Expander} {words : List String} {word : String}
    (asked : word ∈ words) : (expander.learn words).recall word = expander.answer word := by
  rw [Expander.recall, learn_remembers, if_pos asked, Option.getD_some]

variable {expander : Expander} {sources : Sources}

theorem Expander.Faithful.answer (faithful : expander.Faithful sources) (word : String) :
    expander.answer word = sources.expand word := by
  rw [answer_eq, faithful.same]
  cases found : expander.remembered[word]? with
  | none => rfl
  | some words => exact faithful.true_memory word words found

theorem expand_keeps_faithful (faithful : expander.Faithful sources) (word : String) :
    (expander.expand word).2.Faithful sources := by
  constructor
  · rw [expand_keeps_sources, faithful.same]
  · intro other words found
    rw [expand_remembers, faithful.answer] at found
    split at found
    · rename_i same
      rw [← same]
      exact (Option.some.inj found).symm
    · exact faithful.true_memory other words found

theorem learn_keeps_faithful (faithful : expander.Faithful sources) (words : List String) :
    (expander.learn words).Faithful sources := by
  induction words generalizing expander with
  | nil => exact faithful
  | cons word rest ih => exact ih (expand_keeps_faithful faithful word)

/-- A pattern depends on the sources only through the words that it asks for. -/
theorem expandPattern_congr {first second : String → List String} {clean : String}
    (agree : ∀ word ∈ wordsToAsk clean, first word = second word) :
    expandPattern first clean = expandPattern second clean := by
  have each : ∀ part ∈ parts clean.toList,
      part.render first = part.render second ∧
        part.unexpanded? first = part.unexpanded? second := by
    intro part member
    cases part with
    | plain c => exact ⟨rfl, rfl⟩
    | concept occurrence =>
      have same := agree occurrence.word (List.mem_filterMap.mpr ⟨_, member, rfl⟩)
      simp only [Part.render, Part.unexpanded?, same, and_self]
  have rendered : (parts clean.toList).flatMap (Part.render first) =
      (parts clean.toList).flatMap (Part.render second) := by
    simp only [List.flatMap_def]
    rw [List.map_congr_left fun part member => (each part member).1]
  have missing : (parts clean.toList).filterMap (Part.unexpanded? first) =
      (parts clean.toList).filterMap (Part.unexpanded? second) :=
    List.filterMap_congr fun part member => (each part member).2
  simp only [expandPattern, rendered, missing]

end Concept

theorem compileTrigger_congr {options : Options} {first second : String → List String}
    {raw : String} (agree : ∀ word ∈ options.wordsOfTrigger raw, first word = second word) :
    options.compileTrigger first raw = options.compileTrigger second raw := by
  simp only [Options.compileTrigger]
  cases clean : options.cleanTrigger raw with
  | error fault => rfl
  | ok clean' =>
    simp only [Options.wordsOfTrigger, clean, Except.toOption, Option.map_some,
      Option.getD_some] at agree
    simp only [Except.map, Concept.expandPattern_congr agree]

theorem normalizeTrigger_eq (options : Options) (raw : String) :
    normalizeTrigger options raw =
      (options.compileTrigger options.sources.expand raw).map (·.clean) := by
  have fresh : options.expander.Faithful options.sources :=
    Concept.new_expander_faithful options.sources
  simp only [normalizeTrigger]
  rw [compileTrigger_congr]
  intro word asked
  rw [Concept.recall_learned asked, fresh.answer]

namespace Graph

theorem revise_congr {graph : Graph} {first second : Gambit → Except ε (Gambit × List Diagnostic)}
    (agree : ∀ (id : Identifier) gambit, graph.gambits[id]? = some gambit →
      first gambit = second gambit) :
    graph.revise first = graph.revise second := by
  have outcomes : (graph.gambits.map fun _ gambit => first gambit) =
      graph.gambits.map fun _ gambit => second gambit := by
    apply ExtTreeMap.ext_getElem?
    intro id
    simp only [ExtTreeMap.getElem?_map]
    cases found : graph.gambits[id]? with
    | none => rfl
    | some gambit => simp only [Option.map_some, agree id gambit found]
  simp only [revise, outcomes]

theorem compileTriggers_spec {options : Options} {expander : Concept.Expander}
    (faithful : expander.Faithful options.sources) (graph : Graph) :
    (graph.compileTriggers options expander).1 =
        graph.revise (Gambit.compileTrigger options options.sources.expand) ∧
      (graph.compileTriggers options expander).2.Faithful options.sources := by
  constructor
  · simp only [compileTriggers]
    apply revise_congr
    intro id gambit found
    cases held : gambit.trigger with
    | none => simp only [Gambit.compileTrigger, held]
    | some trigger =>
      simp only [Gambit.compileTrigger, held]
      rw [compileTrigger_congr]
      intro word asked
      rw [← faithful.answer]
      apply Concept.recall_learned
      refine List.mem_flatMap.mpr ⟨gambit, mem_values_iff.mpr ⟨id, found⟩, ?_⟩
      simpa [Gambit.wordsToAsk, held] using asked
  · exact Concept.learn_keeps_faithful faithful _

end Graph

variable {options : Options} {expander : Concept.Expander}

/-- Compiling a text gives the same with every faithful expander, and leaves it faithful. -/
theorem compileText_spec (faithful : expander.Faithful options.sources) (name text : String) :
    (compileText options expander name text).1 = compileSource options name text ∧
      (compileText options expander name text).2.Faithful options.sources := by
  have fresh := Concept.new_expander_faithful options.sources
  simp only [compileSource, compileText]
  split
  · exact ⟨rfl, faithful⟩
  · cases resolveSource options name text with
    | error fault => exact ⟨rfl, faithful⟩
    | ok resolved =>
      obtain ⟨first, kept⟩ := Graph.compileTriggers_spec faithful resolved.1
      obtain ⟨second, _⟩ := Graph.compileTriggers_spec fresh resolved.1
      refine ⟨?_, kept⟩
      simp only [first, Options.expander, second]

theorem compileBytes_spec (faithful : expander.Faithful options.sources) (path : String)
    (content : List UInt8) :
    (compileBytes options expander path content).1 =
        (compileBytes options options.expander path content).1 ∧
      (compileBytes options expander path content).2.Faithful options.sources := by
  have fresh := Concept.new_expander_faithful options.sources
  simp only [compileBytes]
  cases Text.decode content with
  | error fault => exact ⟨rfl, faithful⟩
  | ok text =>
    obtain ⟨first, kept⟩ := compileText_spec faithful path text
    refine ⟨?_, kept⟩
    simp only [first]
    rfl

/-- One script of a directory compiled with an expander of its own. -/
def recompileAlone (options : Options) (file : Scanned) :
    Option (String × Except CompileError Recompiled) :=
  file.content.map fun content =>
    (file.path, (compileBytes options options.expander file.path content).1.map
      (⟨file.path, file.checksum, ·⟩))

/-- Scripts that share an expander come out as if each had one of its own. -/
theorem recompileAll_eq (faithful : expander.Faithful options.sources) (files : List Scanned) :
    recompileAll options expander files = files.filterMap (recompileAlone options) := by
  induction files generalizing expander with
  | nil => rfl
  | cons file rest ih =>
    simp only [recompileAll, List.filterMap_cons, recompileAlone]
    cases file.content with
    | none => exact ih faithful
    | some content =>
      obtain ⟨same, kept⟩ := compileBytes_spec faithful file.path content
      simp only [Option.map_some, same, ih kept]

end DialogueScript
