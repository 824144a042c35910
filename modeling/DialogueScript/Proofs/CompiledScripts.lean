import DialogueScript.Proofs.ConceptSubstitution
import DialogueScript.Proofs.LiteralConversations
import DialogueScript.Proofs.LoweredContent

/- What compiling a script adds to its lowered graph. Each pass fills in fields of its own in every
   gambit and leaves the rest as it is, and what it has to tell can be read off the finished gambits
   in the order of their identifiers. -/
namespace DialogueScript
open Std

namespace Graph

def Reply.Fits (engine : Regex.Engine) (reply : Reply) (clean : String) : Prop :=
  ∃ test, engine (conversationRegex clean) = .ok test ∧ test reply.text.toList = true

structure Trigger.Completed (options : Options) (before after : Trigger) : Prop where
  raw : after.raw = before.raw
  clean : ∃ clean, normalizeTrigger options before.raw = .ok clean ∧ after.clean = some clean

/-- A conversation has its clean pattern, and leads to all the replies of the graph that fit. -/
structure Conversation.Completed (options : Options) (graph : Graph)
    (before after : Conversation) : Prop where
  raw : after.raw = before.raw
  ascending : after.replies.Pairwise (· < ·)
  clean : ∃ clean, options.grammar before.raw = .ok clean ∧ after.clean = some clean ∧
    ∀ id, id ∈ after.replies ↔
      ∃ reply, graph.replies[id]? = some reply ∧ reply.Fits options.engine clean

structure Gambit.Completed (options : Options) (graph : Graph) (before after : Gambit) :
    Prop where
  rest : after = { before with trigger := after.trigger, conversation := after.conversation }
  trigger : Option.Rel (Trigger.Completed options) before.trigger after.trigger
  conversation : Option.Rel (Conversation.Completed options graph)
    before.conversation after.conversation

structure Completed (options : Options) (before after : Graph) : Prop where
  topics : after.topics = before.topics
  replies : after.replies = before.replies
  gambits : ∀ id : Identifier,
    Option.Rel (Gambit.Completed options before) before.gambits[id]? after.gambits[id]?

def Conversation.notes (engine : Regex.Engine) (id : Identifier) (conversation : Conversation) :
    List Diagnostic :=
  match conversation.clean.map fun clean => engine (conversationRegex clean) with
  | none => []
  | some (.error message) => [.invalidConversation id conversation.raw message]
  | some (.ok _) =>
    if conversation.replies = [] then [.unresolvedConversation id conversation.raw] else []

def Gambit.conversationNotes (options : Options) (gambit : Gambit) : List Diagnostic :=
  (gambit.conversation.map (·.notes options.engine gambit.id)).getD []

def Gambit.conceptNotes (options : Options) (gambit : Gambit) : List Diagnostic :=
  ((gambit.wordsToAsk options).filter fun word => (options.sources.expand word).isEmpty).map
    (.conceptNotExpanded gambit.id)

variable {options : Options} {graph : Graph}

theorem cleanPattern_ok_iff {text clean : String} :
    options.cleanPattern text = .ok clean ↔ options.grammar text = .ok clean := by
  rw [Options.cleanPattern]
  cases options.grammar text <;> simp

theorem resolve_notes (engine : Regex.Engine) (graph : Graph) (id : Identifier)
    (conversation : Conversation) (clean : String) :
    (graph.resolve engine id conversation clean).2 =
      (graph.resolve engine id conversation clean).1.notes engine id := by
  simp only [resolve]
  cases built : engine (conversationRegex clean) with
  | error message => simp [Conversation.notes, built]
  | ok test => simp [Conversation.notes, built]

theorem resolve_completed (wf : graph.WellFormed) (id : Identifier) {conversation : Conversation}
    {clean : String} (cleaned : options.cleanPattern conversation.raw = .ok clean) :
    Conversation.Completed options graph conversation
      (graph.resolve options.engine id conversation clean).1 := by
  refine ⟨resolve_keeps_raw options.engine graph id conversation clean,
    (resolve_gives_resolved wf options.engine id conversation clean).1, clean,
    cleanPattern_ok_iff.mp cleaned, ?_⟩
  simp only [resolve, Reply.Fits]
  cases built : options.engine (conversationRegex clean) with
  | error message => simp
  | ok test =>
    refine ⟨rfl, fun target => ⟨?_, ?_⟩⟩
    · intro member
      obtain ⟨reply, found⟩ := mem_iff_lookup.mp ((matching_replies_resolved wf test).2 _ member)
      exact ⟨reply, found, test, rfl, (mem_repliesMatching wf found).mp member⟩
    · rintro ⟨reply, found, other, same, fits⟩
      cases same
      exact (mem_repliesMatching wf found).mpr fits

theorem resolveConversation_completed (wf : graph.WellFormed) {gambit after : Gambit}
    {told : List Diagnostic}
    (changed : gambit.resolveConversation options graph = .ok (after, told)) :
    after = { gambit with conversation := after.conversation } ∧
      Option.Rel (Conversation.Completed options graph) gambit.conversation after.conversation ∧
      told = after.conversationNotes options := by
  rcases resolveConversation_cases changed with
    ⟨silent, rfl, rfl⟩ | ⟨conversation, clean, held, cleaned, rfl, rfl⟩
  · refine ⟨rfl, ?_, by simp [Gambit.conversationNotes, silent]⟩
    rw [silent]
    exact .none
  · refine ⟨rfl, ?_, resolve_notes _ _ _ _ _⟩
    rw [held]
    exact .some (resolve_completed wf gambit.id cleaned)

theorem compileTrigger_completed {gambit after : Gambit} {told : List Diagnostic}
    (changed : gambit.compileTrigger options options.sources.expand = .ok (after, told)) :
    after = { gambit with trigger := after.trigger } ∧
      Option.Rel (Trigger.Completed options) gambit.trigger after.trigger ∧
      told = after.conceptNotes options := by
  rcases compileTrigger_cases changed with
    ⟨silent, rfl, rfl⟩ | ⟨trigger, expansion, held, compiled, rfl, rfl⟩
  · refine ⟨rfl, ?_, by simp [Gambit.conceptNotes, Gambit.wordsToAsk, silent]⟩
    rw [silent]
    exact .none
  · have clean : normalizeTrigger options trigger.raw = .ok expansion.clean := by
      rw [normalizeTrigger_eq, compiled]
      rfl
    obtain ⟨pattern, cleaned, rfl⟩ := map_ok_iff.mp compiled
    obtain ⟨_, later, _, words, expanded⟩ := Concept.expandPattern_of_cuts pattern
    rw [held]
    refine ⟨rfl, .some ⟨rfl, _, clean, rfl⟩, ?_⟩
    simp only [Gambit.conceptNotes, Gambit.wordsToAsk, Option.map_some, Option.getD_some,
      Options.wordsOfTrigger, cleaned, Except.toOption, words, expanded]

/-- If what each change tells can be read off the changed gambit, then what the revision tells is
read off the revised gambits in order. -/
theorem revise_tells {revised : Graph} {diagnostics : List Diagnostic}
    {change : Gambit → Except ε (Gambit × List Diagnostic)} {notes : Gambit → List Diagnostic}
    (ok : graph.revise change = .ok (revised, diagnostics))
    (reads : ∀ gambit after told, change gambit = .ok (after, told) → told = notes after) :
    diagnostics = revised.gambits.values.flatMap notes := by
  obtain ⟨_, _, forth, back⟩ := revise_spec ok
  simp only [revise] at ok
  split at ok
  · cases ok
  · simp only [Except.ok.injEq, Prod.mk.injEq] at ok
    rw [← ok.2]
    apply flatMap_values_agree
    intro id
    rw [ExtTreeMap.getElem?_map]
    cases before : graph.gambits[id]? with
    | none => rw [back id before]; rfl
    | some gambit =>
      obtain ⟨told, after, changed, stored⟩ := forth id gambit before
      simp [stored, changed, Except.toOption, reads gambit after told changed]

section Passes

variable {resolved compiled : Graph} {unresolved unexpanded : List Diagnostic}

theorem passes_complete (wf : graph.WellFormed)
    (resolves : graph.revise (Gambit.resolveConversation options graph) =
      .ok (resolved, unresolved))
    (compiles : resolved.revise (Gambit.compileTrigger options options.sources.expand) =
      .ok (compiled, unexpanded)) :
    Completed options graph compiled := by
  obtain ⟨topics, replies, resolution, stillNone⟩ := revise_spec resolves
  obtain ⟨sameTopics, sameReplies, completion, noneAgain⟩ := revise_spec compiles
  refine ⟨sameTopics.trans topics, sameReplies.trans replies, ?_⟩
  intro id
  cases before : graph.gambits[id]? with
  | none =>
    rw [noneAgain id (stillNone id before)]
    exact .none
  | some gambit =>
    obtain ⟨_, middle, changed, between⟩ := resolution id gambit before
    obtain ⟨_, after, compiledAfter, stored⟩ := completion id middle between
    obtain ⟨kept, conversation, _⟩ := resolveConversation_completed wf changed
    obtain ⟨keptAgain, trigger, _⟩ := compileTrigger_completed compiledAfter
    rw [stored]
    rw [kept] at trigger
    refine .some ⟨?_, trigger, ?_⟩
    · rw [keptAgain, kept]
    · rw [keptAgain]
      exact conversation

theorem passes_tell (wf : graph.WellFormed)
    (resolves : graph.revise (Gambit.resolveConversation options graph) =
      .ok (resolved, unresolved))
    (compiles : resolved.revise (Gambit.compileTrigger options options.sources.expand) =
      .ok (compiled, unexpanded)) :
    unresolved = compiled.gambits.values.flatMap (Gambit.conversationNotes options) ∧
      unexpanded = compiled.gambits.values.flatMap (Gambit.conceptNotes options) := by
  constructor
  · rw [revise_tells resolves fun _ _ _ changed => (resolveConversation_completed wf changed).2.2]
    -- Compiling the triggers does not touch what the notes on conversations are read off.
    apply flatMap_values_agree
    intro id
    obtain ⟨_, _, forth, back⟩ := revise_spec compiles
    cases between : resolved.gambits[id]? with
    | none => rw [back id between]
    | some gambit =>
      obtain ⟨_, after, changed, stored⟩ := forth id gambit between
      rw [stored, (compileTrigger_completed changed).1]
      rfl
  · exact revise_tells compiles fun _ _ _ changed => (compileTrigger_completed changed).2.2

end Passes

end Graph

variable {options : Options} {name text : String}

theorem readScript_ok_iff {script : Script} :
    readScript options text = .ok script ↔
      options.reader (String.ofList (preprocess text.toList)) = .ok script := by
  simp only [readScript]
  cases options.reader (String.ofList (preprocess text.toList)) <;> simp

theorem lowerScript_ok_iff {script : Script} {lowered : Graph × List Diagnostic} :
    lowerScript options name script = .ok lowered ↔
      Graph.ofScript name options.topicConflicts script = .ok lowered := by
  simp only [lowerScript]
  split <;> simp_all

/-- A compiled script is its lowered graph completed. It tells of the topics that were declared
again, then of the conversations that lead nowhere, then of the concepts without words, the last two
in the order of the gambits. -/
theorem compiled_script_is_completed {script : CompiledScript} (solid : isBlankText text = false)
    (ok : compileSource options name text = .ok script) :
    ∃ written lowered repeated,
      options.reader (String.ofList (preprocess text.toList)) = .ok written ∧
      Graph.ofScript name options.topicConflicts written = .ok (lowered, repeated) ∧
      Graph.Completed options lowered script.graph ∧
      (script.graph.gambits.values.map (·.id)).Pairwise (· < ·) ∧
      repeated = (Script.repeatedNames [] written.collapsed).map .repeatedTopic ∧
      script.diagnostics = repeated ++
        script.graph.gambits.values.flatMap (Graph.Gambit.conversationNotes options) ++
        script.graph.gambits.values.flatMap (Graph.Gambit.conceptNotes options) := by
  have ordered : (script.graph.gambits.values.map (·.id)).Pairwise (· < ·) := by
    rw [names_of_values (compileText_well_formed ok).gambit_key]
    exact keys_ascending _
  rcases compileText_cases ok with
    ⟨blank, _⟩ | ⟨_, written, lowered, repeated, resolved, unresolved, compiled, unexpanded,
      reads, lowers, resolves, compiles, rfl⟩
  · rw [solid] at blank
    cases blank
  · have wf := lowerScript_well_formed lowers
    have fresh : options.expander.Faithful options.sources :=
      Concept.new_expander_faithful options.sources
    rw [(Graph.compileTriggers_spec fresh resolved).1] at compiles
    have lowering := lowerScript_ok_iff.mp lowers
    obtain ⟨notes, concepts⟩ := Graph.passes_tell wf resolves compiles
    refine ⟨written, lowered, repeated, readScript_ok_iff.mp reads, lowering,
      Graph.passes_complete wf resolves compiles, ordered,
      (Graph.ofScript_represents lowering).told, ?_⟩
    rw [notes, concepts]

def wonderingText : String := "+ i like ~pets\n% not really\n- fine"

theorem wondering_script_is_completed : ∃ script, isBlankText wonderingText = false ∧
    compileSource {} "chat.ss" wonderingText = .ok script ∧
    script.diagnostics = [.unresolvedConversation "giIwT62Q" "not really",
      .conceptNotExpanded "giIwT62Q" "pets"] ∧
    ∃ written lowered repeated,
      Script.read (String.ofList (preprocess wonderingText.toList)) = .ok written ∧
      Graph.ofScript "chat.ss" .extend written = .ok (lowered, repeated) ∧
      Graph.Completed {} lowered script.graph ∧
      script.diagnostics = repeated ++
        script.graph.gambits.values.flatMap (Graph.Gambit.conversationNotes {}) ++
        script.graph.gambits.values.flatMap (Graph.Gambit.conceptNotes {}) := by
  have evaluated : (compileSource {} "chat.ss" wonderingText).toOption.any
      (fun script => decide (script.diagnostics =
        [.unresolvedConversation "giIwT62Q" "not really",
          .conceptNotExpanded "giIwT62Q" "pets"])) = true := by
    decide +kernel
  obtain ⟨script, ok, listed⟩ := ok_of_any evaluated
  have solid : isBlankText wonderingText = false := by rfl
  obtain ⟨written, lowered, repeated, reads, lowers, completed, _, _, told⟩ :=
    compiled_script_is_completed solid ok
  exact ⟨script, solid, ok, of_decide_eq_true listed, written, lowered, repeated, reads, lowers,
    completed, told⟩

end DialogueScript
