import DialogueScript.Proofs.EnoughIdentifiers
import DialogueScript.Proofs.RefusedPatterns
import DialogueScript.Proofs.TopicPolicies

/- When compiling a text fails, and with which error. A text is read, its topics are checked, its
   items are numbered, then its conversations and at last its triggers are read by the grammar. The
   first of these to fail gives the error, and among the gambits it is the one with the least
   identifier. Where the words for concepts come from makes no difference. -/
namespace DialogueScript

theorem bind_error_iff {ε α β : Type} {first : Except ε α} {next : α → Except ε β} {error : ε} :
    (first >>= next) = .error error ↔
      first = .error error ∨ ∃ value, first = .ok value ∧ next value = .error error := by
  cases first with
  | error fault => simp [bind, Except.bind]
  | ok value => simp [bind, Except.bind]

variable {options : Options}

/- Topics that are declared again, and identifiers that run out. -/

namespace Script

/-- The name of the first topic, other than random, that repeats the name of an earlier one. -/
def FirstRepeated (topics : List Topic) (name : String) : Prop :=
  ∃ before topic after, topics = before ++ topic :: after ∧ topic.name = name ∧
    name ≠ randomTopic ∧ name ∈ before.map (·.name) ∧
    ∀ other, ¬ Clashes (before.map (·.name)) other

theorem repeatedTopic_append {seen : List String} {before : List Topic}
    (none : repeatedTopic? seen before = none) (after : List Topic) :
    repeatedTopic? seen (before ++ after) =
      repeatedTopic? ((before.map (·.name)).reverse ++ seen) after := by
  induction before generalizing seen with
  | nil => rfl
  | cons topic rest ih =>
    simp only [repeatedTopic?, List.cons_append] at none ⊢
    split at none
    · cases none
    · rename_i first
      rw [if_neg first, ih none]
      simp

theorem split_at_repeated {seen : List String} {topics : List Topic} {name : String}
    (found : repeatedTopic? seen topics = some name) :
    ∃ before topic after, topics = before ++ topic :: after ∧ topic.name = name ∧
      name ≠ randomTopic ∧ (name ∈ seen ∨ name ∈ before.map (·.name)) ∧
      repeatedTopic? seen before = none := by
  induction topics generalizing seen with
  | nil => cases found
  | cons topic rest ih =>
    simp only [repeatedTopic?] at found
    split at found
    · rename_i again
      cases found
      exact ⟨[], topic, rest, rfl, rfl, again.1, .inl again.2, rfl⟩
    · rename_i first
      obtain ⟨before, other, after, rfl, named, notRandom, earlier, none⟩ := ih found
      refine ⟨topic :: before, other, after, rfl, named, notRandom, ?_, ?_⟩
      · simp only [List.mem_cons, List.map_cons] at earlier ⊢
        rw [or_assoc, or_left_comm] at earlier
        exact earlier
      · simpa [repeatedTopic?, first] using none

theorem repeatedTopic_eq_some_iff {topics : List Topic} {name : String} :
    repeatedTopic? [] topics = some name ↔ FirstRepeated topics name := by
  constructor
  · intro found
    obtain ⟨before, topic, after, split, named, notRandom, earlier, none⟩ := split_at_repeated found
    exact ⟨before, topic, after, split, named, notRandom, by simpa using earlier,
      repeatedTopic_eq_none_iff.mp none⟩
  · rintro ⟨before, topic, after, rfl, rfl, notRandom, earlier, once⟩
    rw [repeatedTopic_append (repeatedTopic_eq_none_iff.mpr once), repeatedTopic?, if_pos]
    exact ⟨notRandom, by simpa using earlier⟩

end Script

def Options.Allows (options : Options) (script : Script) : Prop :=
  options.topicConflicts = .reject → ∀ name, ¬ Clashes (script.topics.map (·.name)) name

def Options.repeatedIn? (options : Options) (script : Script) : Option String :=
  if options.topicConflicts = .reject then Script.repeatedTopic? [] script.collapsed else none

theorem repeatedIn_eq_some_iff {script : Script} {name : String} :
    options.repeatedIn? script = some name ↔
      options.topicConflicts = .reject ∧ Script.FirstRepeated script.collapsed name := by
  rw [← Script.repeatedTopic_eq_some_iff, Options.repeatedIn?]
  split <;> simp_all

theorem repeatedIn_eq_none_iff {script : Script} :
    options.repeatedIn? script = none ↔ options.Allows script := by
  have once : Script.repeatedTopic? [] script.collapsed = none ↔
      ∀ name, ¬ Clashes (script.topics.map (·.name)) name := by
    simp only [Script.repeatedTopic_eq_none_iff, Script.collapsed_clashes_iff]
  rw [Options.Allows, Options.repeatedIn?, ← once]
  split <;> simp_all

theorem lowerScript_eq (scope : String) (script : Script) :
    lowerScript options scope script =
      match options.repeatedIn? script with
      | some name => .error (.repeatedTopic name)
      | none =>
        match Graph.Draft.addTopics? { numbering := .ofScope scope } script.collapsed with
        | none => .error .identifiersExhausted
        | some draft => .ok (draft.graph, draft.diagnostics) := by
  simp only [lowerScript, Graph.ofScript, Options.repeatedIn?]
  cases (if options.topicConflicts = .reject then
      Script.repeatedTopic? [] script.collapsed else none) with
  | some name => rfl
  | none =>
    cases Graph.Draft.addTopics? { numbering := .ofScope scope } script.collapsed with
    | none => rfl
    | some draft => rfl

def Numbers (scope : String) (script : Script) : Prop :=
  Offers scope (Script.itemCount script.allGambits)

theorem numbers_iff {scope : String} {script : Script} :
    (∃ draft, Graph.Draft.addTopics? { numbering := .ofScope scope } script.collapsed =
      some draft) ↔ Numbers scope script := by
  rw [Graph.numbered_iff_offered, Script.itemCount_perm script.collapsed_gambits]
  rfl

theorem lowerScript_ok {scope : String} {script : Script} :
    (∃ lowered, lowerScript options scope script = .ok lowered) ↔
      options.Allows script ∧ Numbers scope script := by
  rw [lowerScript_eq, ← repeatedIn_eq_none_iff, ← numbers_iff]
  cases options.repeatedIn? script with
  | some name => simp
  | none =>
    cases Graph.Draft.addTopics? { numbering := .ofScope scope } script.collapsed with
    | none => simp
    | some draft => simp

theorem lowerScript_error_iff {scope : String} {script : Script} {error : SourceError} :
    lowerScript options scope script = .error error ↔
      (∃ name, (options.topicConflicts = .reject ∧ Script.FirstRepeated script.collapsed name) ∧
        error = .repeatedTopic name) ∨
      options.Allows script ∧ ¬ Numbers scope script ∧ error = .identifiersExhausted := by
  simp only [lowerScript_eq, ← repeatedIn_eq_some_iff, ← repeatedIn_eq_none_iff, ← numbers_iff]
  cases options.repeatedIn? script with
  | some name => simp [eq_comm]
  | none =>
    cases Graph.Draft.addTopics? { numbering := .ofScope scope } script.collapsed with
    | none => simp [eq_comm]
    | some draft => simp

/- From the text to the error. -/

variable {name text : String}

theorem compileSource_of_solid (solid : isBlankText text = false) :
    compileSource options name text = do
      let script ← readScript options text
      let (lowered, repeated) ← lowerScript options name script
      let (resolved, unresolved) ← lowered.revise (Graph.Gambit.resolveConversation options lowered)
      let (graph, unexpanded) ← resolved.revise
        (Graph.Gambit.compileTrigger options options.sources.expand)
      return { graph, diagnostics := repeated ++ unresolved ++ unexpanded } := by
  have fresh : options.expander.Faithful options.sources :=
    Concept.new_expander_faithful options.sources
  have same (graph : Graph) := (Graph.compileTriggers_spec fresh graph).1
  simp only [compileSource, compileText, solid, Bool.false_eq_true, ↓reduceIte, resolveSource]
  cases readScript options text with
  | error error => rfl
  | ok script =>
    simp only [bind_of_ok]
    cases lowerScript options name script with
    | error error => rfl
    | ok lowered =>
      simp only [bind_of_ok]
      cases lowered.1.revise (Graph.Gambit.resolveConversation options lowered.1) with
      | error error => rfl
      | ok resolved =>
        simp only [bind_of_ok, pure, Except.pure, same]
        cases resolved.1.revise (Graph.Gambit.compileTrigger options options.sources.expand) <;> rfl

theorem compileSource_error_iff (solid : isBlankText text = false) {error : SourceError} :
    compileSource options name text = .error error ↔
      readScript options text = .error error ∨
      ∃ script, readScript options text = .ok script ∧
        (lowerScript options name script = .error error ∨
        ∃ lowered repeated, lowerScript options name script = .ok (lowered, repeated) ∧
          (lowered.revise (Graph.Gambit.resolveConversation options lowered) = .error error ∨
          ∃ resolved unresolved,
            lowered.revise (Graph.Gambit.resolveConversation options lowered) =
              .ok (resolved, unresolved) ∧
            resolved.revise (Graph.Gambit.compileTrigger options options.sources.expand) =
              .error error)) := by
  simp only [compileSource_of_solid solid, bind_error_iff, Prod.exists, pure, Except.pure,
    reduceCtorEq, and_false, exists_false, or_false]

theorem compileSource_ok_iff (solid : isBlankText text = false) :
    (∃ script, compileSource options name text = .ok script) ↔
      ∃ script, readScript options text = .ok script ∧
        ∃ lowered repeated, lowerScript options name script = .ok (lowered, repeated) ∧
          ∃ resolved unresolved,
            lowered.revise (Graph.Gambit.resolveConversation options lowered) =
              .ok (resolved, unresolved) ∧
            ∃ compiled,
              resolved.revise (Graph.Gambit.compileTrigger options options.sources.expand) =
                .ok compiled := by
  simp only [compileSource_of_solid solid, bind_ok_iff, Prod.exists, pure, Except.pure,
    Except.ok.injEq]
  constructor
  · rintro ⟨_, script, reads, lowered, repeated, lowers, resolved, unresolved, resolves, graph,
      told, compiles, rfl⟩
    exact ⟨script, reads, lowered, repeated, lowers, resolved, unresolved, resolves, graph, told,
      compiles⟩
  · rintro ⟨script, reads, lowered, repeated, lowers, resolved, unresolved, resolves, graph, told,
      compiles⟩
    exact ⟨_, script, reads, lowered, repeated, lowers, resolved, unresolved, resolves, graph, told,
      compiles, rfl⟩

theorem readScript_error_iff {error : SourceError} :
    readScript options text = .error error ↔
      ∃ fault, options.reader (String.ofList (preprocess text.toList)) = .error fault ∧
        error = .refused fault (lineAt (preprocess text.toList) fault.line) := by
  simp only [readScript]
  cases options.reader (String.ofList (preprocess text.toList)) with
  | ok script => simp
  | error fault => simp [eq_comm]

/-- A script that compiles: its topics are declared once where they must be, there are identifiers
enough, and the grammar reads its conversations as they are written and the canonical texts of its
triggers. -/
structure Options.Accepts (options : Options) (name : String) (script : Script) : Prop where
  topics : options.Allows script
  numbered : Numbers name script
  conversations : ∀ gambit ∈ script.allGambits, options.Reads gambit.conversation
  triggers : ∀ gambit ∈ script.allGambits, options.Reads (gambit.trigger.map Text.canonical)

/-- The error of a text that is not blank. -/
inductive SourceError.Arises (options : Options) (name text : String) : SourceError → Prop where
  | unread {fault : Script.SyntaxError}
      (refused : options.reader (String.ofList (preprocess text.toList)) = .error fault) :
      Arises options name text (.refused fault (lineAt (preprocess text.toList) fault.line))
  | repeatedTopic {script : Script} {topic : String}
      (reads : options.reader (String.ofList (preprocess text.toList)) = .ok script)
      (rejects : options.topicConflicts = .reject)
      (first : Script.FirstRepeated script.collapsed topic) :
      Arises options name text (.repeatedTopic topic)
  | unnumbered {script : Script}
      (reads : options.reader (String.ofList (preprocess text.toList)) = .ok script)
      (allowed : options.Allows script) (short : ¬ Numbers name script) :
      Arises options name text .identifiersExhausted
  | conversation {script : Script} {lowered : Graph} {told : List Diagnostic} {error : SourceError}
      (reads : options.reader (String.ofList (preprocess text.toList)) = .ok script)
      (lowers : Graph.ofScript name options.topicConflicts script = .ok (lowered, told))
      (refuses : options.RefusesFirst lowered.conversationAt? error) :
      Arises options name text error
  | trigger {script : Script} {lowered : Graph} {told : List Diagnostic} {error : SourceError}
      (reads : options.reader (String.ofList (preprocess text.toList)) = .ok script)
      (lowers : Graph.ofScript name options.topicConflicts script = .ok (lowered, told))
      (conversations : ∀ gambit ∈ script.allGambits, options.Reads gambit.conversation)
      (refuses : options.RefusesFirst lowered.triggerAt? error) :
      Arises options name text error

section Stages

variable {script : Script} {lowered resolved : Graph} {repeated unresolved : List Diagnostic}

theorem resolving_fails_iff (lowered : Graph) (error : SourceError) :
    lowered.revise (Graph.Gambit.resolveConversation options lowered) = .error error ↔
      options.RefusesFirst lowered.conversationAt? error :=
  Graph.revise_refuses_iff (fun _ _ => Graph.resolveConversation_error_iff) error

theorem resolving_works_iff
    (lowers : Graph.ofScript name options.topicConflicts script = .ok (lowered, repeated)) :
    (∃ resolved, lowered.revise (Graph.Gambit.resolveConversation options lowered) =
      .ok resolved) ↔ ∀ gambit ∈ script.allGambits, options.Reads gambit.conversation := by
  rw [Graph.revise_reads_iff fun _ _ => Graph.resolveConversation_error_iff]
  apply Graph.reads_lowered_iff lowers
  intro id gambit written stored found
  exact (Graph.written_as_stored stored found).2

theorem compiling_fails_iff
    (lowers : Graph.ofScript name options.topicConflicts script = .ok (lowered, repeated))
    (resolves : lowered.revise (Graph.Gambit.resolveConversation options lowered) =
      .ok (resolved, unresolved)) (error : SourceError) :
    resolved.revise (Graph.Gambit.compileTrigger options options.sources.expand) = .error error ↔
      options.RefusesFirst lowered.triggerAt? error := by
  rw [← Graph.resolved_triggerAt (Graph.lowered_graph_well_formed lowers) resolves]
  exact Graph.revise_refuses_iff (fun _ _ => Graph.compileTrigger_error_iff) error

theorem compiling_works_iff
    (lowers : Graph.ofScript name options.topicConflicts script = .ok (lowered, repeated))
    (resolves : lowered.revise (Graph.Gambit.resolveConversation options lowered) =
      .ok (resolved, unresolved)) :
    (∃ compiled, resolved.revise (Graph.Gambit.compileTrigger options options.sources.expand) =
      .ok compiled) ↔
      ∀ gambit ∈ script.allGambits, options.Reads (gambit.trigger.map Text.canonical) := by
  have kept := Graph.resolved_triggerAt (Graph.lowered_graph_well_formed lowers) resolves
  calc (∃ compiled, resolved.revise (Graph.Gambit.compileTrigger options options.sources.expand) =
        .ok compiled)
    _ ↔ ∀ id, options.Reads (resolved.triggerAt? id) :=
      Graph.revise_reads_iff fun _ _ => Graph.compileTrigger_error_iff
    _ ↔ ∀ id, options.Reads (lowered.triggerAt? id) := by rw [kept]
    _ ↔ ∀ gambit ∈ script.allGambits, options.Reads (gambit.trigger.map Text.canonical) := by
      apply Graph.reads_lowered_iff lowers
      intro id gambit written stored found
      rw [(Graph.written_as_stored stored found).1, Option.map_map]
      rfl

end Stages

theorem compiles_iff_accepted (solid : isBlankText text = false) :
    (∃ script, compileSource options name text = .ok script) ↔
      ∃ script, options.reader (String.ofList (preprocess text.toList)) = .ok script ∧
        options.Accepts name script := by
  rw [compileSource_ok_iff solid]
  simp only [readScript_ok_iff]
  constructor
  · rintro ⟨script, reads, lowered, repeated, lowers, resolved, unresolved, resolves, compiles⟩
    obtain ⟨topics, numbered⟩ := lowerScript_ok.mp ⟨_, lowers⟩
    have lowering := lowerScript_ok_iff.mp lowers
    exact ⟨script, reads, topics, numbered, (resolving_works_iff lowering).mp ⟨_, resolves⟩,
      (compiling_works_iff lowering resolves).mp compiles⟩
  · rintro ⟨script, reads, accepted⟩
    obtain ⟨⟨lowered, repeated⟩, lowers⟩ :=
      lowerScript_ok.mpr ⟨accepted.topics, accepted.numbered⟩
    have lowering := lowerScript_ok_iff.mp lowers
    obtain ⟨⟨resolved, unresolved⟩, resolves⟩ :=
      (resolving_works_iff lowering).mpr accepted.conversations
    exact ⟨script, reads, lowered, repeated, lowers, resolved, unresolved, resolves,
      (compiling_works_iff lowering resolves).mpr accepted.triggers⟩

theorem fails_iff_arises (solid : isBlankText text = false) (error : SourceError) :
    compileSource options name text = .error error ↔ error.Arises options name text := by
  rw [compileSource_error_iff solid]
  simp only [readScript_ok_iff, readScript_error_iff, lowerScript_error_iff, resolving_fails_iff]
  constructor
  · rintro (⟨fault, refused, rfl⟩ | ⟨script, reads, later⟩)
    · exact .unread refused
    · rcases later with (⟨topic, ⟨rejects, first⟩, rfl⟩ | ⟨allowed, short, rfl⟩) |
        ⟨lowered, repeated, lowers, refuses | ⟨resolved, unresolved, resolves, refuses⟩⟩
      · exact .repeatedTopic reads rejects first
      · exact .unnumbered reads allowed short
      · exact .conversation reads (lowerScript_ok_iff.mp lowers) refuses
      -- The triggers are looked at only once all conversations have been read.
      · have lowering := lowerScript_ok_iff.mp lowers
        exact .trigger reads lowering ((resolving_works_iff lowering).mp ⟨_, resolves⟩)
          ((compiling_fails_iff lowering resolves error).mp refuses)
  · intro arises
    cases arises with
    | unread refused => exact .inl ⟨_, refused, rfl⟩
    | repeatedTopic reads rejects first =>
      exact .inr ⟨_, reads, .inl (.inl ⟨_, ⟨rejects, first⟩, rfl⟩)⟩
    | unnumbered reads allowed short => exact .inr ⟨_, reads, .inl (.inr ⟨allowed, short, rfl⟩)⟩
    | conversation reads lowers refuses =>
      exact .inr ⟨_, reads, .inr ⟨_, _, lowerScript_ok_iff.mpr lowers, .inl refuses⟩⟩
    | trigger reads lowers conversations refuses =>
      obtain ⟨⟨resolved, unresolved⟩, resolves⟩ := (resolving_works_iff lowers).mpr conversations
      exact .inr ⟨_, reads, .inr ⟨_, _, lowerScript_ok_iff.mpr lowers, .inr ⟨resolved, unresolved,
        resolves, (compiling_fails_iff lowers resolves error).mpr refuses⟩⟩⟩

theorem SourceError.Arises.other_sources {error : SourceError}
    (arises : error.Arises options name text) (sources : Concept.Sources) :
    error.Arises { options with sources } name text := by
  cases arises with
  | unread refused => exact .unread refused
  | repeatedTopic reads rejects first => exact .repeatedTopic reads rejects first
  | unnumbered reads allowed short => exact .unnumbered reads allowed short
  | conversation reads lowers refuses => exact .conversation reads lowers refuses
  | trigger reads lowers conversations refuses => exact .trigger reads lowers conversations refuses

/-- A text compiles if and only if it is blank or a script that is accepted. Otherwise the stages
fail in order: reading, the check of the topics, numbering, the conversations, the triggers. -/
theorem source_outcome_is_determined (options : Options) (name text : String) :
    ((∃ script, compileSource options name text = .ok script) ↔
      isBlankText text = true ∨
        ∃ script, options.reader (String.ofList (preprocess text.toList)) = .ok script ∧
          options.Accepts name script) ∧
    (∀ error, compileSource options name text = .error error ↔
      isBlankText text = false ∧ error.Arises options name text) ∧
    ∀ sources : Concept.Sources,
      ((∃ script, compileSource options name text = .ok script) ∧
        ∃ script, compileSource { options with sources } name text = .ok script) ∨
      ∃ error, compileSource options name text = .error error ∧
        compileSource { options with sources } name text = .error error := by
  cases blank : isBlankText text with
  | true =>
    have empty (options : Options) : compileSource options name text = .ok {} := by
      simp [compileSource, compileText, blank]
    simp [empty]
  | false =>
    refine ⟨by simp [compiles_iff_accepted blank], by simp [fails_iff_arises blank], ?_⟩
    intro sources
    cases outcome : compileSource options name text with
    | error error =>
      have arises := (fails_iff_arises blank error).mp outcome
      exact .inr ⟨error, rfl, (fails_iff_arises blank error).mpr (arises.other_sources sources)⟩
    | ok script =>
      refine .inl ⟨⟨script, rfl⟩, ?_⟩
      obtain ⟨parsed, reads, accepted⟩ := (compiles_iff_accepted blank).mp ⟨script, outcome⟩
      exact (compiles_iff_accepted blank).mpr ⟨parsed, reads, accepted.topics, accepted.numbered,
        accepted.conversations, accepted.triggers⟩

-- A refused conversation is told before a refused trigger, also if it is written behind it.
example : Graph.failure? (compileSource {} "chat.ss" "+ (a\n+ b\n% (c") =
    some (.badPattern "(c" ⟨"unterminated '('", 0⟩) := by
  decide +kernel

end DialogueScript
