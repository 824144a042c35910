import DialogueScript.Proofs.CompiledScripts

/- Patterns that the grammar refuses. The gambits of a graph are followed back to those of the
   script, and a pass over them fails with the first refusal in the order of the identifiers. -/
namespace DialogueScript
open Std

theorem ok_iff_no_error {ε α : Type} {outcome : Except ε α} :
    (∃ value, outcome = .ok value) ↔ ∀ error, outcome ≠ .error error := by
  cases outcome with
  | error fault => simp
  | ok value => simp

/- The gambits of a script and of its graph. -/

def Script.allGambits (script : Script) : List Script.Gambit :=
  script.topics.flatMap (·.gambits) ++ script.gambits

theorem Script.collapsed_gambits (script : Script) :
    (script.collapsed.flatMap (·.gambits)).Perm script.allGambits := by
  have collapses := collapsed_collapses script
  unfold allGambits
  generalize script.collapsed = topics at collapses
  cases collapses with
  | nothing_loose none => rw [none, List.append_nil]
  | joined before after topic split _ _ =>
    simp only [split, List.flatMap_append, List.flatMap_cons, List.append_assoc]
    exact (List.perm_append_comm.append_left _).append_left _
  | created _ _ => simp

theorem mem_of_mapM {f : α → Option β} {xs : List α} {ys : List β} (found : xs.mapM f = some ys) :
    (∀ x ∈ xs, ∃ y ∈ ys, f x = some y) ∧ ∀ y ∈ ys, ∃ x ∈ xs, f x = some y := by
  induction xs generalizing ys with
  | nil =>
    cases found
    simp
  | cons x xs ih =>
    simp only [List.mapM_cons, Option.bind_eq_bind, Option.bind_eq_some_iff, Option.pure_def,
      Option.some.injEq] at found
    obtain ⟨y, first, later, rest, rfl⟩ := found
    obtain ⟨forth, back⟩ := ih rest
    constructor
    · intro x' member
      rcases List.mem_cons.mp member with rfl | member
      · exact ⟨y, List.mem_cons_self, first⟩
      · obtain ⟨y', listed, same⟩ := forth x' member
        exact ⟨y', List.mem_cons_of_mem y listed, same⟩
    · intro y' member
      rcases List.mem_cons.mp member with rfl | member
      · exact ⟨x, List.mem_cons_self, first⟩
      · obtain ⟨x', listed, same⟩ := back y' member
        exact ⟨x', List.mem_cons_of_mem x listed, same⟩

namespace Graph

variable {graph : Graph} {id : Identifier}

theorem stored_of_written {written : Script.Gambit} (found : graph.writtenAt? id = some written) :
    ∃ gambit, graph.gambits[id]? = some gambit ∧ written.trigger = gambit.trigger.map (·.raw) ∧
      written.conversation = gambit.conversation.map (·.raw) := by
  simp only [writtenAt?, Option.bind_eq_bind, Option.bind_eq_some_iff, Option.pure_def,
    Option.some.injEq] at found
  obtain ⟨gambit, stored, texts, _, rfl⟩ := found
  exact ⟨gambit, stored, rfl, rfl⟩

theorem written_as_stored {gambit : Gambit} {written : Script.Gambit}
    (stored : graph.gambits[id]? = some gambit) (found : graph.writtenAt? id = some written) :
    written.trigger = gambit.trigger.map (·.raw) ∧
      written.conversation = gambit.conversation.map (·.raw) := by
  obtain ⟨held, same, agree⟩ := stored_of_written found
  rw [stored, Option.some.injEq] at same
  rwa [same]

section Lowered

variable {scope : String} {policy : TopicConflict} {script : Script} {told : List Diagnostic}

theorem written_of_stored (ok : ofScript scope policy script = .ok (graph, told)) {gambit : Gambit}
    (stored : graph.gambits[id]? = some gambit) :
    ∃ written ∈ script.allGambits, graph.writtenAt? id = some written := by
  obtain ⟨topic, found, member⟩ := (lowered_graph_well_formed ok).listed id gambit stored
  obtain ⟨written, among, same⟩ :=
    (mem_of_mapM ((ofScript_represents ok).combines _ topic found).gambits).1 id member
  refine ⟨written, script.collapsed_gambits.mem_iff.mp ?_, same⟩
  obtain ⟨declared, chosen, holds⟩ := List.mem_flatMap.mp among
  exact List.mem_flatMap.mpr ⟨declared, List.mem_of_mem_filter chosen, holds⟩

theorem written_iff (ok : ofScript scope policy script = .ok (graph, told))
    (gambit : Script.Gambit) :
    (∃ id, graph.writtenAt? id = some gambit) ↔ gambit ∈ script.allGambits := by
  have represents := ofScript_represents ok
  constructor
  · rintro ⟨id, found⟩
    obtain ⟨held, stored, _⟩ := stored_of_written found
    obtain ⟨written, among, same⟩ := written_of_stored ok stored
    rw [found, Option.some.injEq] at same
    rwa [same]
  · intro member
    obtain ⟨declared, among, holds⟩ :=
      List.mem_flatMap.mp (script.collapsed_gambits.mem_iff.mpr member)
    obtain ⟨topic, found⟩ := mem_iff_lookup.mp
      ((represents.names declared.name).mpr (List.mem_map.mpr ⟨declared, among, rfl⟩))
    have held : gambit ∈ (Script.declarationsOf declared.name script.collapsed).flatMap
        (·.gambits) := by
      refine List.mem_flatMap.mpr ⟨declared, ?_, holds⟩
      simpa [Script.declarationsOf] using among
    obtain ⟨id, _, written⟩ := (mem_of_mapM (represents.combines _ topic found).gambits).2 _ held
    exact ⟨id, written⟩

end Lowered

end Graph

/- Patterns that the grammar reads or refuses. -/

def Options.Reads (options : Options) (pattern : Option String) : Prop :=
  ∀ text, pattern = some text → ∃ clean, options.grammar text = .ok clean

def Options.Refuses (options : Options) (pattern : Option String) (error : SourceError) : Prop :=
  ∃ text refusal, pattern = some text ∧ options.grammar text = .error refusal ∧
    error = .badPattern text refusal

/-- The error of the refused pattern with the least identifier. -/
def Options.RefusesFirst (options : Options) (patternAt : Identifier → Option String)
    (error : SourceError) : Prop :=
  ∃ id, options.Refuses (patternAt id) error ∧ ∀ other < id, options.Reads (patternAt other)

variable {options : Options}

theorem reads_iff {pattern : Option String} :
    options.Reads pattern ↔ ∀ error, ¬ options.Refuses pattern error := by
  constructor
  · rintro reads error ⟨text, refusal, rfl, refused, _⟩
    obtain ⟨clean, cleaned⟩ := reads text rfl
    rw [refused] at cleaned
    cases cleaned
  · rintro accepted text rfl
    cases outcome : options.grammar text with
    | ok clean => exact ⟨clean, rfl⟩
    | error refusal => exact absurd ⟨text, refusal, rfl, outcome, rfl⟩ (accepted _)

theorem cleanPattern_error_iff {text : String} {error : SourceError} :
    options.cleanPattern text = .error error ↔ options.Refuses (some text) error := by
  simp only [Options.cleanPattern, Options.Refuses]
  cases outcome : options.grammar text with
  | ok clean => simp [outcome]
  | error refusal => simp [outcome, eq_comm]

namespace Graph

def conversationAt? (graph : Graph) (id : Identifier) : Option String :=
  graph.gambits[id]?.bind fun gambit => gambit.conversation.map (·.raw)

def triggerAt? (graph : Graph) (id : Identifier) : Option String :=
  graph.gambits[id]?.bind fun gambit => gambit.trigger.map fun trigger => Text.canonical trigger.raw

theorem resolveConversation_error_iff {graph : Graph} {gambit : Gambit} {error : SourceError} :
    gambit.resolveConversation options graph = .error error ↔
      options.Refuses (gambit.conversation.map (·.raw)) error := by
  cases held : gambit.conversation with
  | none => simp [Gambit.resolveConversation, held, Options.Refuses]
  | some conversation =>
    simp only [Gambit.resolveConversation, held]
    rw [map_error_iff, cleanPattern_error_iff]
    rfl

theorem compileTrigger_error_iff {expand : String → List String} {gambit : Gambit}
    {error : SourceError} :
    gambit.compileTrigger options expand = .error error ↔
      options.Refuses (gambit.trigger.map fun trigger => Text.canonical trigger.raw) error := by
  cases held : gambit.trigger with
  | none => simp [Gambit.compileTrigger, held, Options.Refuses]
  | some trigger =>
    simp only [Gambit.compileTrigger, held]
    rw [map_error_iff, Options.compileTrigger, map_error_iff, Options.cleanTrigger,
      cleanPattern_error_iff]
    rfl

/-- A revision fails as the change of the first gambit does that cannot be changed. -/
theorem revise_error_iff {graph : Graph} {change : Gambit → Except ε (Gambit × List Diagnostic)}
    {error : ε} :
    graph.revise change = .error error ↔
      ∃ (id : Identifier) (gambit : Gambit), graph.gambits[id]? = some gambit ∧
        change gambit = .error error ∧
        ∀ other < id, ∀ earlier, graph.gambits[other]? = some earlier →
          ∃ result, change earlier = .ok result := by
  have fails (outcome : Except ε (Gambit × List Diagnostic)) (fault : ε) :
      failure? outcome = some fault ↔ outcome = .error fault := by
    cases outcome <;> simp [failure?]
  have works (outcome : Except ε (Gambit × List Diagnostic)) :
      failure? outcome = none ↔ ∃ result, outcome = .ok result := by
    cases outcome <;> simp [failure?]
  -- The outcomes are searched in the order of the keys, which are the identifiers.
  have first : graph.revise change = .error error ↔
      (graph.gambits.map fun _ gambit => change gambit).values.findSome? failure? = some error := by
    simp only [revise]
    split
    · rename_i found
      simp [found]
    · rename_i found
      simp [found]
  rw [first, findSome_values_iff]
  simp only [ExtTreeMap.getElem?_map, Option.map_eq_some_iff, fails, works]
  constructor
  · rintro ⟨id, _, ⟨gambit, stored, rfl⟩, failed, least⟩
    exact ⟨id, gambit, stored, failed, fun other less earlier found =>
      least other less _ ⟨earlier, found, rfl⟩⟩
  · rintro ⟨id, gambit, stored, failed, least⟩
    refine ⟨id, _, ⟨gambit, stored, rfl⟩, failed, ?_⟩
    rintro other less _ ⟨earlier, found, rfl⟩
    exact least other less earlier found

section Revising

variable {graph : Graph} {change : Gambit → Except SourceError (Gambit × List Diagnostic)}
  {pattern : Gambit → Option String}

theorem revise_refuses_iff
    (fails : ∀ gambit error, change gambit = .error error ↔ options.Refuses (pattern gambit) error)
    (error : SourceError) :
    graph.revise change = .error error ↔
      options.RefusesFirst (fun id => graph.gambits[id]?.bind pattern) error := by
  have works (gambit : Gambit) :
      (∃ result, change gambit = .ok result) ↔ options.Reads (pattern gambit) := by
    rw [ok_iff_no_error, reads_iff]
    exact forall_congr' fun error => not_congr (fails gambit error)
  rw [revise_error_iff]
  simp only [fails, works]
  constructor
  · rintro ⟨id, gambit, stored, refused, least⟩
    refine ⟨id, by simpa [stored] using refused, ?_⟩
    intro other less text there
    obtain ⟨earlier, found, same⟩ := Option.bind_eq_some_iff.mp there
    exact least other less earlier found text same
  · rintro ⟨id, ⟨text, refusal, there, refused, rfl⟩, least⟩
    obtain ⟨gambit, stored, same⟩ := Option.bind_eq_some_iff.mp there
    refine ⟨id, gambit, stored, ⟨text, refusal, same, refused, rfl⟩, ?_⟩
    intro other less earlier found
    simpa [found] using least other less

theorem revise_reads_iff
    (fails : ∀ gambit error, change gambit = .error error ↔
      options.Refuses (pattern gambit) error) :
    (∃ revised, graph.revise change = .ok revised) ↔
      ∀ id : Identifier, options.Reads (graph.gambits[id]?.bind pattern) := by
  constructor
  · rintro ⟨⟨revised, told⟩, ok⟩ id text there
    obtain ⟨gambit, stored, same⟩ := Option.bind_eq_some_iff.mp there
    obtain ⟨_, after, changed, _⟩ := (revise_spec ok).2.2.1 id gambit stored
    refine reads_iff.mpr ?_ text same
    intro error refused
    rw [(fails gambit error).mpr refused] at changed
    cases changed
  · intro reads
    rw [ok_iff_no_error]
    intro error failed
    obtain ⟨id, refused, _⟩ := (revise_refuses_iff fails error).mp failed
    exact reads_iff.mp (reads id) error refused

end Revising

theorem resolved_triggerAt {graph resolved : Graph} {told : List Diagnostic} (wf : graph.WellFormed)
    (resolves : graph.revise (Gambit.resolveConversation options graph) = .ok (resolved, told)) :
    resolved.triggerAt? = graph.triggerAt? := by
  obtain ⟨_, _, forth, back⟩ := revise_spec resolves
  funext id
  simp only [triggerAt?]
  cases before : graph.gambits[id]? with
  | none => rw [back id before]
  | some gambit =>
    obtain ⟨_, after, changed, stored⟩ := forth id gambit before
    rw [stored, (resolveConversation_completed wf changed).1]
    rfl

theorem reads_lowered_iff {scope : String} {policy : TopicConflict} {script : Script}
    {graph : Graph} {told : List Diagnostic}
    (ok : ofScript scope policy script = .ok (graph, told))
    {patternOf : Script.Gambit → Option String} {pattern : Gambit → Option String}
    (agree : ∀ (id : Identifier) gambit written, graph.gambits[id]? = some gambit →
      graph.writtenAt? id = some written → patternOf written = pattern gambit) :
    (∀ id : Identifier, options.Reads (graph.gambits[id]?.bind pattern)) ↔
      ∀ gambit ∈ script.allGambits, options.Reads (patternOf gambit) := by
  constructor
  · intro reads written member
    obtain ⟨id, found⟩ := (written_iff ok written).mpr member
    obtain ⟨gambit, stored, _⟩ := stored_of_written found
    rw [agree id gambit written stored found]
    simpa [stored] using reads id
  · intro reads id text there
    obtain ⟨gambit, stored, same⟩ := Option.bind_eq_some_iff.mp there
    obtain ⟨written, among, found⟩ := written_of_stored ok stored
    exact reads written among text ((agree id gambit written stored found).trans same)

end Graph

end DialogueScript
