import DialogueScript.Proofs.DirectoryRuns
import DialogueScript.Proofs.Lowering

/- Every graph that compilation gives is well-formed: lowering makes it so, resolving conversations
   and compiling triggers keep it so, and so does merging any number of scripts. -/
namespace DialogueScript
open Std

namespace Graph

variable {options : Options} {graph : Graph}

theorem matching_replies_resolved (wf : graph.WellFormed) (test : List Char → Bool) :
    (graph.repliesMatching test).Pairwise (· < ·) ∧
      ∀ id ∈ graph.repliesMatching test, id ∈ graph.replies :=
  ⟨names_of_filtered_values_ascending wf.reply_key _,
    fun _ member => name_of_filtered_value_known wf.reply_key _ member⟩

theorem resolve_gives_resolved (wf : graph.WellFormed) (engine : Regex.Engine) (id : Identifier)
    (conversation : Conversation) (clean : String) :
    (graph.resolve engine id conversation clean).1.replies.Pairwise (· < ·) ∧
      ∀ reply ∈ (graph.resolve engine id conversation clean).1.replies,
        reply ∈ graph.replies := by
  simp only [resolve]
  split
  · simp
  · exact matching_replies_resolved wf _

theorem resolveConversation_cases {gambit after : Gambit} {told : List Diagnostic}
    (changed : gambit.resolveConversation options graph = .ok (after, told)) :
    (gambit.conversation = none ∧ after = gambit ∧ told = []) ∨
      ∃ conversation clean, gambit.conversation = some conversation ∧
        options.cleanPattern conversation.raw = .ok clean ∧
        after = { gambit with
          conversation := some (graph.resolve options.engine gambit.id conversation clean).1 } ∧
        told = (graph.resolve options.engine gambit.id conversation clean).2 := by
  simp only [Gambit.resolveConversation] at changed
  split at changed
  · rename_i silent
    simp only [Except.ok.injEq, Prod.mk.injEq] at changed
    exact .inl ⟨silent, changed.1.symm, changed.2.symm⟩
  · rename_i conversation held
    obtain ⟨clean, cleaned, resolved⟩ := map_ok_iff.mp changed
    simp only [Prod.mk.injEq] at resolved
    exact .inr ⟨conversation, clean, held, cleaned, resolved.1.symm, resolved.2.symm⟩

theorem resolveConversation_keeps_outline :
    KeepsOutline (Gambit.resolveConversation options graph) := by
  intro gambit after told changed
  rcases resolveConversation_cases changed with ⟨_, rfl, _⟩ | ⟨_, _, _, _, rfl, _⟩
  · exact ⟨rfl, rfl, rfl⟩
  · exact ⟨rfl, rfl, rfl⟩

theorem resolveConversation_resolves (wf : graph.WellFormed) {gambit after : Gambit}
    {told : List Diagnostic}
    (changed : gambit.resolveConversation options graph = .ok (after, told)) :
    graph.Resolved after := by
  intro conversation found
  rcases resolveConversation_cases changed with ⟨silent, rfl, _⟩ | ⟨held, clean, _, _, rfl, _⟩
  · simp [silent] at found
  · simp only [Option.some.injEq] at found
    rw [← found]
    exact resolve_gives_resolved wf options.engine gambit.id held clean

theorem compileTrigger_cases {expand : String → List String} {gambit after : Gambit}
    {told : List Diagnostic} (changed : gambit.compileTrigger options expand = .ok (after, told)) :
    (gambit.trigger = none ∧ after = gambit ∧ told = []) ∨
      ∃ trigger expansion, gambit.trigger = some trigger ∧
        options.compileTrigger expand trigger.raw = .ok expansion ∧
        after = { gambit with trigger := some { trigger with clean := some expansion.clean } } ∧
        told = expansion.unexpanded.map (.conceptNotExpanded gambit.id) := by
  simp only [Gambit.compileTrigger] at changed
  split at changed
  · rename_i silent
    simp only [Except.ok.injEq, Prod.mk.injEq] at changed
    exact .inl ⟨silent, changed.1.symm, changed.2.symm⟩
  · rename_i trigger held
    obtain ⟨expansion, expanded, compiled⟩ := map_ok_iff.mp changed
    simp only [Prod.mk.injEq] at compiled
    exact .inr ⟨trigger, expansion, held, expanded, compiled.1.symm, compiled.2.symm⟩

theorem compileTrigger_changes_trigger {expand : String → List String} {gambit after : Gambit}
    {told : List Diagnostic} (changed : gambit.compileTrigger options expand = .ok (after, told)) :
    after = { gambit with trigger := after.trigger } := by
  rcases compileTrigger_cases changed with ⟨_, rfl, _⟩ | ⟨_, _, _, _, rfl, _⟩
  · rfl
  · rfl

theorem compileTrigger_keeps_outline {expand : String → List String} :
    KeepsOutline (Gambit.compileTrigger options expand) := by
  intro gambit after told changed
  rw [compileTrigger_changes_trigger changed]
  exact ⟨rfl, rfl, rfl⟩

theorem compileTriggers_keeps_well_formed {expander : Concept.Expander} {compiled : Graph}
    {told : List Diagnostic} (wf : graph.WellFormed)
    (ok : (graph.compileTriggers options expander).1 = .ok (compiled, told)) :
    compiled.WellFormed := by
  refine revise_keeps_well_formed wf ok compileTrigger_keeps_outline ?_
  intro id gambit after told found changed conversation held
  rw [compileTrigger_changes_trigger changed] at held
  exact wf.resolved id gambit found conversation held

end Graph

variable {options : Options}

theorem lowerScript_well_formed {scope : String} {script : Script} {graph : Graph}
    {told : List Diagnostic} (ok : lowerScript options scope script = .ok (graph, told)) :
    graph.WellFormed := by
  simp only [lowerScript] at ok
  split at ok
  · rename_i lowered built
    simp only [Except.ok.injEq] at ok
    exact Graph.lowered_graph_well_formed (ok ▸ built)
  · simp at ok
  · simp at ok

theorem compileText_cases {expander : Concept.Expander} {name text : String}
    {script : CompiledScript} (ok : (compileText options expander name text).1 = .ok script) :
    isBlankText text = true ∧ script = {} ∨
    isBlankText text = false ∧ ∃ read lowered repeated resolved unresolved compiled unexpanded,
      readScript options text = .ok read ∧
      lowerScript options name read = .ok (lowered, repeated) ∧
      lowered.revise (Graph.Gambit.resolveConversation options lowered) =
        .ok (resolved, unresolved) ∧
      (resolved.compileTriggers options expander).1 = .ok (compiled, unexpanded) ∧
      script = { graph := compiled, diagnostics := repeated ++ unresolved ++ unexpanded } := by
  simp only [compileText] at ok
  split at ok
  · rename_i blank
    simp only [Except.ok.injEq] at ok
    exact .inl ⟨blank, ok.symm⟩
  · rename_i solid
    cases source : resolveSource options name text with
    | error fault => simp [source] at ok
    | ok pair =>
      simp only [source] at ok
      obtain ⟨⟨compiled, unexpanded⟩, compiles, rfl⟩ := map_ok_iff.mp ok
      simp only [resolveSource, bind_ok_iff, pure, Except.pure, Except.ok.injEq,
        Prod.exists] at source
      obtain ⟨read, reads, lowered, repeated, lowers, resolved, unresolved, resolves, rfl⟩ := source
      exact .inr ⟨by simpa using solid, read, lowered, repeated, resolved, unresolved, compiled,
        unexpanded, reads, lowers, resolves, compiles, rfl⟩

theorem compileText_well_formed {expander : Concept.Expander} {name text : String}
    {script : CompiledScript} (ok : (compileText options expander name text).1 = .ok script) :
    script.graph.WellFormed := by
  rcases compileText_cases ok with
    ⟨_, rfl⟩ | ⟨_, _, _, _, _, _, _, _, _, lowers, resolves, compiles, rfl⟩
  · exact Graph.empty_well_formed
  · have wf := lowerScript_well_formed lowers
    have resolved := Graph.revise_keeps_well_formed wf resolves
      Graph.resolveConversation_keeps_outline
      fun _ _ _ _ _ changed => Graph.resolveConversation_resolves wf changed
    exact Graph.compileTriggers_keeps_well_formed resolved compiles

theorem compileBytes_well_formed {expander : Concept.Expander} {path : String}
    {content : List UInt8} {script : CompiledScript}
    (ok : (compileBytes options expander path content).1 = .ok script) :
    script.graph.WellFormed := by
  simp only [compileBytes] at ok
  split at ok
  · simp at ok
  · rename_i text _
    cases compiled : (compileText options expander path text).1 with
    | error fault => simp [compiled, Except.mapError] at ok
    | ok result =>
      simp only [compiled, Except.mapError, Except.ok.injEq] at ok
      exact ok ▸ compileText_well_formed compiled

theorem compileFile_well_formed {tree : FileTree} {path : Path} {script : CompiledScript}
    (ok : compileFile options tree path = .ok script) : script.graph.WellFormed := by
  simp only [compileFile, bind_ok_iff] at ok
  obtain ⟨content, _, compiled⟩ := ok
  exact compileBytes_well_formed compiled

theorem merged_scripts_well_formed {tree : FileTree} {paths : List Path} {graph : Graph}
    (merged : mergeAll options.topicConflicts {}
      ((paths.filterMap (recompiledAt options tree)).map (·.script.graph)) = .ok graph) :
    graph.WellFormed := by
  refine mergeAll_keeps_well_formed merged Graph.empty_well_formed ?_
  intro other member
  obtain ⟨file, compiled, rfl⟩ := List.mem_map.mp member
  obtain ⟨path, _, found⟩ := List.mem_filterMap.mp compiled
  exact compileFile_well_formed (recompiledAt_eq_some found).2.2.1

/-- Whatever is compiled, and by whatever options, its graph is well-formed and hence closed. The
knowledge base of a directory is empty, or its graph has a topic, a gambit and a reply and it tells
the checksum of each script that was compiled or found unchanged. -/
theorem compiled_graphs_are_well_formed (options : Options) :
    (∀ name text script, compileSource options name text = .ok script →
      script.graph.WellFormed ∧ script.graph.isClosed = true) ∧
    (∀ tree path script, compileFile options tree path = .ok script →
      script.graph.WellFormed ∧ script.graph.isClosed = true) ∧
    ∀ tree root out, compileDirectory options tree root = .ok out →
      (out.knowledgeBase.graph.WellFormed ∧ out.knowledgeBase.graph.isClosed = true) ∧
      (out.knowledgeBase = .empty ∨
        out.knowledgeBase.graph.isIncomplete = false ∧
          out.knowledgeBase.checksums = out.checksums ∧
          out.knowledgeBase.version = schemaVersion) ∧
      ∀ path, path ∈ out.checksums ↔ path ∈ out.recompiled ∨ path ∈ out.unchanged := by
  have closed : ∀ {graph : Graph}, graph.WellFormed → graph.WellFormed ∧ graph.isClosed = true :=
    fun wf => ⟨wf, Graph.well_formed_is_closed wf⟩
  refine ⟨?_, ?_, ?_⟩
  · intro name text script ok
    exact closed (compileText_well_formed ok)
  · intro tree path script ok
    exact closed (compileFile_well_formed ok)
  · intro tree root out ok
    obtain ⟨paths, graph, _, _, merged, rfl⟩ := compileDirectory_ok_iff.mp ok
    refine ⟨?_, ?_, checksums_cover_run _ _ _ _⟩
    · simp only [CompiledDirectory.assemble]
      split
      · exact closed Graph.empty_well_formed
      · exact closed (merged_scripts_well_formed merged)
    · simp only [CompiledDirectory.assemble]
      split
      · exact .inl rfl
      · rename_i complete
        exact .inr ⟨by simpa using complete, rfl, rfl⟩

theorem sample_graph_is_well_formed : ∃ out, compileDirectory {} sampleTree "chat" = .ok out ∧
    out.knowledgeBase.isEmpty = false ∧ out.knowledgeBase.graph.WellFormed ∧
    out.knowledgeBase.graph.isClosed = true := by
  obtain ⟨out, ok, filled, _⟩ := sampleTree_compiles
  exact ⟨out, ok, filled, ((compiled_graphs_are_well_formed {}).2.2 _ _ _ ok).1⟩

end DialogueScript
