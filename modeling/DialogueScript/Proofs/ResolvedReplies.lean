import DialogueScript.Proofs.QuotedReplies

/- The replies that a conversation is resolved to. They are those of its graph whose texts its
   pieces ask for, and none if the expression is refused for its size. A conversation without
   pattern syntax asks for its words. -/
namespace DialogueScript

namespace Graph

variable {options : Options} {graph : Graph} {gambit : Gambit} {conversation : Conversation}
  {target : Identifier} {raw clean : String} {pieces : List Pattern.Piece}

def Selects (graph : Graph) (asked : List Char → Prop) (target : Identifier) : Prop :=
  ∃ reply ∈ graph.replies.values, reply.id = target ∧ asked reply.text.toList

def Gambit.ResolvesTo (options : Options) (graph : Graph) (gambit : Gambit)
    (resolved : Conversation) : Prop :=
  ∃ told, gambit.resolveConversation options graph =
    .ok ({ gambit with conversation := some resolved }, told)

def HasConversation (graph : Graph) (conversation : Conversation) : Prop :=
  ∃ (id : Identifier) (gambit : Gambit), graph.gambits[id]? = some gambit ∧
    gambit.conversation = some conversation

theorem Selects.mono {asked others : List Char → Prop} (wider : ∀ text, asked text → others text)
    (selected : graph.Selects asked target) : graph.Selects others target := by
  obtain ⟨reply, among, named, fits⟩ := selected
  exact ⟨reply, among, named, wider _ fits⟩

theorem mem_resolved_iff {engine : Regex.Engine} (standard : engine.Standard)
    (read : Pattern.read raw.toList = .ok pieces) (cleaned : Pattern.grammar raw = .ok clean)
    (id : Identifier) (conversation : Conversation) :
    target ∈ (graph.resolve engine id conversation clean).1.replies ↔
      WithinSizeLimit raw ∧ graph.Selects (· ∈ replyLanguage pieces) target := by
  rcases conversation_expression standard read cleaned with
    ⟨large, refused⟩ | ⟨fits, test, built, matched⟩
  · simp [resolve, refused, large]
  · simp only [resolve, built, repliesMatching, List.mem_map, List.mem_filter, matched, Selects,
      fits, true_and]
    constructor
    · rintro ⟨reply, ⟨among, fits⟩, named⟩
      exact ⟨reply, among, named, fits⟩
    · rintro ⟨reply, among, named, fits⟩
      exact ⟨reply, ⟨among, fits⟩, named⟩

theorem resolves_to_asked (builtIn : options.grammar = Pattern.grammar)
    (standard : options.engine.Standard) (held : gambit.conversation = some conversation)
    (read : Pattern.read conversation.raw.toList = .ok pieces) (graph : Graph) :
    ∃ resolved, gambit.ResolvesTo options graph resolved ∧
      ∀ target, target ∈ resolved.replies ↔
        WithinSizeLimit conversation.raw ∧ graph.Selects (· ∈ replyLanguage pieces) target := by
  have cleaned := Pattern.grammar_of_read read
  have given : options.cleanPattern conversation.raw =
      .ok (String.ofList (Pattern.render pieces)) := by
    rw [Options.cleanPattern, builtIn, cleaned]
  let outcome :=
    graph.resolve options.engine gambit.id conversation (String.ofList (Pattern.render pieces))
  refine ⟨outcome.1, ⟨outcome.2, ?_⟩, ?_⟩
  · simp only [Gambit.resolveConversation, held, given]
    rfl
  · intro target
    exact mem_resolved_iff standard read cleaned gambit.id conversation

theorem compiled_to_asked (builtIn : options.grammar = Pattern.grammar)
    (standard : options.engine.Standard) {expander : Concept.Expander}
    {name text : String} {script : CompiledScript}
    (ok : (compileText options expander name text).1 = .ok script)
    (held : script.graph.HasConversation conversation)
    (read : Pattern.read conversation.raw.toList = .ok pieces) :
    target ∈ conversation.replies ↔
      WithinSizeLimit conversation.raw ∧
        script.graph.Selects (· ∈ replyLanguage pieces) target := by
  obtain ⟨id, gambit, found, held⟩ := held
  obtain ⟨clean, cleaned, leads⟩ := compiled_conversation_resolved ok found held
  rw [leads]
  exact mem_resolved_iff standard read (cleaned_by_grammar builtIn cleaned) id conversation

end Graph

/-- A reply is the words of a text without their sentence marks, in any letter case and with one
space between neighbours, and then blanks and then marks. -/
def SaysWordsOf (text reply : List Char) : Prop :=
  ∃ body, Text.SameLetters
      (Text.unwords (((Text.words text).map Pattern.bareWord).filter (!·.isEmpty))) body ∧
    EndsAfter body reply

theorem mem_literal_language {text reply : List Char} :
    reply ∈ replyLanguage ((Pattern.literalWords text).map .word) ↔ SaysWordsOf text reply := by
  rw [replyLanguage, Pattern.items_words, mem_literal_reply, SaysWordsOf, Pattern.literalWords_eq]

/-- A conversation without pattern syntax is resolved to the replies that say its words, in
whatever graph it stands. -/
theorem literal_conversations_match_their_words {options : Options}
    (builtIn : options.grammar = Pattern.grammar) (standard : options.engine.Standard)
    {raw : String}
    (literal : Pattern.IsLiteral raw.toList) (fits : WithinSizeLimit raw) :
    (∀ (graph : Graph) (gambit : Graph.Gambit) (conversation : Graph.Conversation),
      gambit.conversation = some conversation → conversation.raw = raw →
        ∃ resolved, gambit.ResolvesTo options graph resolved ∧
          ∀ target, target ∈ resolved.replies ↔
            graph.Selects (SaysWordsOf raw.toList) target) ∧
    ∀ expander name text script, (compileText options expander name text).1 = .ok script →
      ∀ conversation, script.graph.HasConversation conversation → conversation.raw = raw →
        ∀ target, target ∈ conversation.replies ↔
          script.graph.Selects (SaysWordsOf raw.toList) target := by
  have read := Pattern.read_literal literal
  have asked : (· ∈ replyLanguage ((Pattern.literalWords raw.toList).map .word)) =
      SaysWordsOf raw.toList := by
    funext reply
    exact propext mem_literal_language
  constructor
  · rintro graph gambit conversation held rfl
    obtain ⟨resolved, resolves, leads⟩ := Graph.resolves_to_asked builtIn standard held read graph
    refine ⟨resolved, resolves, ?_⟩
    intro target
    rw [leads, asked, and_iff_right fits]
  · rintro expander name text script ok conversation held rfl target
    rw [Graph.compiled_to_asked builtIn standard ok held read, asked, and_iff_right fits]

def shoutingGraph : Graph :=
  { replies := (∅ : Std.ExtTreeMap Identifier Graph.Reply).insert "loud" ⟨"loud", "WELL THEN \t!"⟩ }

def askingFor (raw : String) : Graph.Gambit :=
  { id := "calm", topic := randomTopic, conversation := some { raw } }

theorem shouted_reply_is_matched :
    Pattern.IsLiteral "Well then ?!".toList ∧ WithinSizeLimit "Well then ?!" ∧
      ∃ resolved, (askingFor "Well then ?!").ResolvesTo {} shoutingGraph resolved ∧
        "loud" ∈ resolved.replies := by
  have literal : Pattern.IsLiteral "Well then ?!".toList := by
    simp [Pattern.IsLiteral, Pattern.isSyntax]
  obtain ⟨resolved, resolves, leads⟩ :=
    (@literal_conversations_match_their_words {} rfl Regex.engine_standard _ literal
      quotes_fit.2).1
      shoutingGraph (askingFor "Well then ?!") _ rfl rfl
  refine ⟨literal, quotes_fit.2, resolved, resolves, (leads "loud").mpr ?_⟩
  refine ⟨⟨"loud", "WELL THEN \t!"⟩, ?_, rfl, "WELL THEN".toList, ?_, " \t".toList, "!".toList, rfl,
    ?_, ?_⟩
  · exact mem_values_iff.mpr ⟨"loud", Std.ExtTreeMap.getElem?_insert_self⟩
  · have said : ((Text.words "Well then ?!".toList).map Pattern.bareWord).filter (!·.isEmpty) =
        ["Well".toList, "then".toList] := by rfl
    rw [said]
    unfold Text.SameLetters
    decide
  · have blank : " \t".toList.all Text.isBlank = true := by rfl
    exact List.all_eq_true.mp blank
  · intro c mark
    rw [List.mem_singleton.mp mark]
    decide

end DialogueScript
