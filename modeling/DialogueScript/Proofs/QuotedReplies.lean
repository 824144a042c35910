import DialogueScript.Proofs.DirectoryRuns
import DialogueScript.Proofs.LiteralConversations

/- Conversations that repeat a reply. Words of a conversation lose their sentence marks and are set
   apart by one space, and the reply is taken as it is written. So a quoted reply is reached just
   when it is written that way itself, up to what may stand at its end. -/
namespace DialogueScript

/-- Words without sentence marks, with one space between them, and then blanks and marks. -/
def Quotable (text : List Char) : Prop :=
  ∃ ws, (∀ word ∈ ws, Pattern.IsBareWord word) ∧ EndsAfter (Text.unwords ws) text

theorem forall_of_related {α : Type} {related : α → α → Prop} {P : α → Prop} {xs ys : List α}
    (keeps : ∀ x y, related x y → P x → P y) (pairs : List.Forall₂ related xs ys)
    (all : ∀ x ∈ xs, P x) : ∀ y ∈ ys, P y := by
  induction pairs with
  | nil => exact all
  | cons first _ ih =>
    rw [List.forall_mem_cons] at all ⊢
    exact ⟨keeps _ _ first all.1, ih all.2⟩

theorem bare_in_other_case {word other : List Char} (same : Text.SameLetters word other)
    (bare : Pattern.IsBareWord word) : Pattern.IsBareWord other := by
  obtain ⟨nonempty, each⟩ := bare
  constructor
  · rintro rfl
    exact nonempty (List.forall₂_nil_right_iff.mp same)
  · refine forall_of_related ?_ same each
    intro c d letter kept
    rwa [← Text.same_letter_tested (fun _ => Text.blank_caseless) letter,
      ← Text.same_letter_tested (fun _ => Text.punctuation_caseless) letter]

theorem unwords_in_other_case {ws : List (List Char)} {text : List Char}
    (same : Text.SameLetters (Text.unwords ws) text) :
    ∃ others, text = Text.unwords others ∧ List.Forall₂ Text.SameLetters ws others := by
  induction ws generalizing text with
  | nil => exact ⟨[], List.forall₂_nil_left_iff.mp same, .nil⟩
  | cons word rest ih =>
    cases rest with
    | nil =>
      rw [Text.unwords, List.intercalate_singleton] at same
      exact ⟨[text], List.intercalate_singleton.symm, .cons same .nil⟩
    | cons next later =>
      rw [Text.unwords_cons_cons] at same
      obtain ⟨front, behind, rfl, here, follows⟩ := Text.sameLetters_append same
      obtain ⟨c, back, space, rest, rfl⟩ := List.forall₂_cons_left_iff.mp follows
      obtain ⟨others, rfl, pairs⟩ := ih rest
      obtain ⟨second, more, _, _, rfl⟩ := List.forall₂_cons_left_iff.mp pairs
      refine ⟨front :: second :: more, ?_, .cons here pairs⟩
      -- A space is the same letter as nothing but itself.
      rw [(Text.same_of_caseless (Text.blank_caseless rfl)).mp space, Text.unwords_cons_cons]

theorem unmarked_unwords {ws : List (List Char)} (bare : ∀ word ∈ ws, Pattern.IsBareWord word) :
    ∀ c ∈ Text.unwords ws, Pattern.isPunctuation c = false := by
  intro c member
  rw [Bool.eq_false_iff]
  intro mark
  have absent : c ∉ [' '].intercalate ws := by
    apply Text.not_mem_intercalate
    · intro space
      rw [List.mem_singleton.mp space] at mark
      cases mark
    · intro word listed inside
      rw [((bare word listed).2 c inside).2] at mark
      cases mark
  exact absent member

/-- The words that a conversation looks for are the text itself, without what may follow. -/
theorem literalWords_of_quotable {ws : List (List Char)} {text : List Char}
    (bare : ∀ word ∈ ws, Pattern.IsBareWord word) (ends : EndsAfter (Text.unwords ws) text) :
    Pattern.literalWords text = ws := by
  obtain ⟨gap, marks, rfl, blank, marked⟩ := ends
  have kept : Pattern.bareWord (Text.unwords ws ++ gap ++ marks) = Text.unwords ws ++ gap := by
    have first : (Text.unwords ws ++ gap).filter (!Pattern.isPunctuation ·) =
        Text.unwords ws ++ gap := by
      rw [List.filter_eq_self]
      intro c member
      rcases List.mem_append.mp member with inside | between
      · simp [unmarked_unwords bare c inside]
      · simp [Pattern.blank_is_no_mark (blank c between)]
    have last : marks.filter (!Pattern.isPunctuation ·) = [] := by
      rw [List.filter_eq_nil_iff]
      intro c member
      simp [endMark_is_mark (marked c member)]
    rw [Pattern.bareWord, List.filter_append, first, last, List.append_nil]
  rw [Pattern.literalWords, kept, Text.words_before_blanks blank]
  apply Text.words_unwords
  intro word listed
  exact ⟨(bare word listed).1, fun c member => ((bare word listed).2 c member).1⟩

/-- A text is among those that its own words match just when it is quotable. -/
theorem matches_itself_iff {text : List Char} :
    (∃ body, Text.SameLetters (Text.unwords (Pattern.literalWords text)) body ∧
      EndsAfter body text) ↔ Quotable text := by
  constructor
  · rintro ⟨body, same, ends⟩
    obtain ⟨others, rfl, pairs⟩ := unwords_in_other_case same
    refine ⟨others, forall_of_related ?_ pairs ?_, ends⟩
    · intro word other same bare
      exact bare_in_other_case same bare
    · intro word listed
      exact Pattern.literal_word listed
  · rintro ⟨ws, bare, ends⟩
    rw [literalWords_of_quotable bare ends]
    exact ⟨Text.unwords ws, Text.sameLetters_refl _, ends⟩

section Scripts

variable {script : CompiledScript} {conversation : Graph.Conversation} {id target : Identifier}
  {quote : String}

structure Quotes (script : CompiledScript) (conversation : Graph.Conversation)
    (target : Identifier) (quote : String) : Prop where
  held : ∃ (id : Identifier) (gambit : Graph.Gambit), script.graph.gambits[id]? = some gambit ∧
    gambit.conversation = some conversation
  written : conversation.raw = quote
  replied : ∃ reply, script.graph.replies[target]? = some reply ∧ reply.text = quote

/-- A conversation that quotes a reply leads to it just when the text is quotable. -/
theorem quoted_reply_is_reached_iff {options : Options} {expander : Concept.Expander}
    {name text : String} (builtIn : options.grammar = Pattern.grammar)
    (standard : options.engine.Standard)
    (ok : (compileText options expander name text).1 = .ok script)
    (quotes : Quotes script conversation target quote) (literal : Pattern.IsLiteral quote.toList)
    (fits : WithinSizeLimit quote) :
    target ∈ conversation.replies ↔ Quotable quote.toList := by
  obtain ⟨⟨id, gambit, found, held⟩, rfl, reply, isReply, same⟩ := quotes
  rw [Graph.literal_conversation builtIn standard ok found held literal fits isReply, same]
  exact matches_itself_iff

def quotingText : String :=
  "+ hi\n- Hello, you\n+ yes\n% Hello, you\n- Well then ?!\n+ why\n% Well then ?!\n- Good"

theorem quotes_of_entries {replies : List Identifier}
    (asked : (script.graph.gambits[id]?.bind (·.conversation)).map (fun c => (c.raw, c.replies)) =
      some (quote, replies))
    (replied : script.graph.replies[target]?.map (·.text) = some quote) :
    ∃ conversation, Quotes script conversation target quote ∧ conversation.replies = replies := by
  obtain ⟨conversation, there, same⟩ := Option.map_eq_some_iff.mp asked
  obtain ⟨gambit, found, held⟩ := Option.bind_eq_some_iff.mp there
  obtain ⟨written, leads⟩ := Prod.mk.inj same
  exact ⟨conversation, ⟨⟨id, gambit, found, held⟩, written, Option.map_eq_some_iff.mp replied⟩,
    leads⟩

theorem quotingText_compiles : ∃ script,
    (compileText {} ({} : Options).expander "chat.ss" quotingText).1 = .ok script ∧
      (∃ conversation, Quotes script conversation "QED0sLpT" "Hello, you" ∧
        conversation.replies = []) ∧
      ∃ conversation, Quotes script conversation "oyA7OWMS" "Well then ?!" := by
  have evaluated : (compileText {} ({} : Options).expander "chat.ss" quotingText).1.toOption.any
      (fun script =>
        let asked (id : Identifier) := (script.graph.gambits[id]?.bind (·.conversation)).map
          (fun c => (c.raw, c.replies))
        let replied (id : Identifier) := script.graph.replies[id]?.map (·.text)
        decide (asked "Ua0n11Ae" = some ("Hello, you", []) ∧
          replied "QED0sLpT" = some "Hello, you" ∧
          asked "Fwn8TPg2" = some ("Well then ?!", ["oyA7OWMS"]) ∧
          replied "oyA7OWMS" = some "Well then ?!")) = true := by
    decide +kernel
  obtain ⟨script, ok, checked⟩ := ok_of_any evaluated
  obtain ⟨firstAsked, firstReplied, lastAsked, lastReplied⟩ := of_decide_eq_true checked
  obtain ⟨conversation, quotes, _⟩ := quotes_of_entries lastAsked lastReplied
  exact ⟨script, ok, quotes_of_entries firstAsked firstReplied, conversation, quotes⟩

theorem quotes_fit :
    WithinSizeLimit "Hello, you" ∧ WithinSizeLimit "Well then ?!" := by
  have built : ["Hello you", "Well then"].all (fun clean =>
      (Regex.build (conversationRegex clean)).toOption.isSome) = true := by
    decide +kernel
  have each := List.all_eq_true.mp built
  have first : Pattern.grammar "Hello, you" = .ok "Hello you" := by rfl
  have last : Pattern.grammar "Well then ?!" = .ok "Well then" := by rfl
  exact ⟨withinSizeLimit_of_built first (each _ (by simp)),
    withinSizeLimit_of_built last (each _ (by simp))⟩

theorem quote_without_comma_is_reached : ∃ script conversation,
    (compileText {} ({} : Options).expander "chat.ss" quotingText).1 = .ok script ∧
      Quotes script conversation "oyA7OWMS" "Well then ?!" ∧
      Pattern.IsLiteral "Well then ?!".toList ∧ WithinSizeLimit "Well then ?!" ∧
      "oyA7OWMS" ∈ conversation.replies := by
  obtain ⟨script, ok, _, conversation, quotes⟩ := quotingText_compiles
  have literal : Pattern.IsLiteral "Well then ?!".toList := by
    simp [Pattern.IsLiteral, Pattern.isSyntax]
  refine ⟨script, conversation, ok, quotes, literal, quotes_fit.2, ?_⟩
  apply (quoted_reply_is_reached_iff rfl Regex.engine_standard ok quotes literal quotes_fit.2).mpr
  refine ⟨["Well".toList, "then".toList], ?_, [' '], ['?', '!'], rfl, ?_, ?_⟩
  · intro word listed
    simp only [List.mem_cons, List.not_mem_nil, or_false] at listed
    rcases listed with rfl | rfl
    · exact ⟨by simp, by simp; decide⟩
    · exact ⟨by simp, by simp; decide⟩
  · intro c space
    rw [List.mem_singleton.mp space]
    rfl
  · intro c mark
    simp only [List.mem_cons, List.not_mem_nil, or_false] at mark
    rcases mark with rfl | rfl <;> decide

/-- A comma inside of a reply keeps its quote from leading to it. -/
theorem quote_with_comma_is_lost : ∃ script conversation,
    (compileText {} ({} : Options).expander "chat.ss" quotingText).1 = .ok script ∧
      Quotes script conversation "QED0sLpT" "Hello, you" ∧
      Pattern.IsLiteral "Hello, you".toList ∧ WithinSizeLimit "Hello, you" ∧
      "QED0sLpT" ∉ conversation.replies := by
  obtain ⟨script, ok, ⟨conversation, quotes, nowhere⟩, _⟩ := quotingText_compiles
  refine ⟨script, conversation, ok, quotes, ?_, quotes_fit.1, ?_⟩
  · simp [Pattern.IsLiteral, Pattern.isSyntax]
  · rw [nowhere]
    exact List.not_mem_nil

end Scripts

end DialogueScript
