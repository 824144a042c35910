import DialogueScript.Proofs.LetterCase
import DialogueScript.Proofs.RegexMatching

/- Conversations without pattern syntax. Such a text is read as its words without their sentence
   marks, and it leads to the replies that are these words with one space between them, in any
   letter case, with blanks and then full stops and the like behind them. -/
namespace DialogueScript

namespace Pattern

def isSyntax (c : Char) : Bool := ['*', '(', ')', '[', ']', '~', '|'].contains c

def IsLiteral (text : List Char) : Prop := ∀ c ∈ text, isSyntax c = false

def literalWords (text : List Char) : List (List Char) := Text.words (bareWord text)

theorem mark_is_no_blank {c : Char} (mark : isPunctuation c = true) : Text.isBlank c = false := by
  have none : ['?', '!', '.', ',', ';', ':'].all (!Text.isBlank ·) = true := by rfl
  have solid := List.all_eq_true.mp none c (by simpa [isPunctuation] using mark)
  simpa using solid

theorem blank_is_no_mark {c : Char} (blank : Text.isBlank c = true) : isPunctuation c = false := by
  rw [Bool.eq_false_iff]
  intro mark
  rw [mark_is_no_blank mark] at blank
  cases blank

theorem splitOnP_filter {α : Type} {cut keep : α → Bool}
    (kept : ∀ x, cut x = true → keep x = true) (xs : List α) :
    (xs.filter keep).splitOnP cut = (xs.splitOnP cut).map (List.filter keep) := by
  induction xs with
  | nil => rfl
  | cons x rest ih =>
    rw [List.filter_cons, List.splitOnP_cons_eq_if_modifyHead]
    by_cases ends : cut x = true
    · rw [if_pos (kept x ends), List.splitOnP_cons_eq_if_modifyHead, if_pos ends, if_pos ends, ih]
      rfl
    · rw [if_neg ends]
      by_cases stays : keep x = true
      · rw [if_pos stays, List.splitOnP_cons_eq_if_modifyHead, if_neg ends, ih]
        cases rest.splitOnP cut with
        | nil => rfl
        | cons first others => simp [stays]
      · rw [if_neg stays, ih]
        cases rest.splitOnP cut with
        | nil => rfl
        | cons first others => simp [stays]

theorem literalWords_eq (text : List Char) :
    literalWords text = ((Text.words text).map bareWord).filter (!·.isEmpty) := by
  have cut : (bareWord text).splitOnP Text.isBlank =
      (text.splitOnP Text.isBlank).map bareWord :=
    splitOnP_filter (fun c blank => by simp [blank_is_no_mark blank]) text
  rw [literalWords, Text.words, Text.words, cut]
  -- A part that is empty has no marks to lose.
  induction text.splitOnP Text.isBlank with
  | nil => rfl
  | cons part others ih =>
    cases part with
    | nil => simpa [bareWord] using ih
    | cons c rest => rw [List.map_cons, List.filter_cons, ih]; simp [List.filter_cons]

def IsBareWord (word : List Char) : Prop :=
  word ≠ [] ∧ ∀ c ∈ word, Text.isBlank c = false ∧ isPunctuation c = false

theorem literal_word {text word : List Char} (isWord : word ∈ literalWords text) :
    IsBareWord word := by
  obtain ⟨nonempty, each⟩ := Text.word_spec isWord
  refine ⟨nonempty, ?_⟩
  intro c member
  obtain ⟨among, solid⟩ := each c member
  exact ⟨solid, by simpa using (List.mem_filter.mp among).2⟩

theorem readFrom_pending (offset pending : Nat) (text : List Char) :
    ∃ later, readFrom offset pending text = readFrom later 0 (text.drop pending) :=
  ⟨_, readFrom_behind offset pending text⟩

theorem takeWhile_agree {α : Type} {test other : α → Bool} {xs : List α}
    (agree : ∀ x ∈ xs, test x = other x) : xs.takeWhile test = xs.takeWhile other := by
  induction xs with
  | nil => rfl
  | cons x rest ih =>
    rw [List.forall_mem_cons] at agree
    rw [List.takeWhile_cons, List.takeWhile_cons, agree.1, ih agree.2]

theorem boundary_of_literal {text : List Char} (literal : IsLiteral text) {c : Char}
    (member : c ∈ text) : isBoundary c = Text.isBlank c := by
  have plain := literal c member
  unfold isSyntax at plain
  rw [isBoundary, plain, Bool.or_false]

theorem readPiece_literal {c : Char} {rest : List Char} (literal : IsLiteral (c :: rest))
    (solid : Text.isBlank c = false) :
    readPiece c rest = .ok ⟨if (bareWord (c :: rest.takeWhile (!Text.isBlank ·))).isEmpty then none
      else some (.word (bareWord (c :: rest.takeWhile (!Text.isBlank ·)))),
      (rest.takeWhile (!Text.isBlank ·)).length⟩ := by
  have same : rest.takeWhile (!isBoundary ·) = rest.takeWhile (!Text.isBlank ·) := by
    apply takeWhile_agree
    intro d member
    rw [boundary_of_literal literal (List.mem_cons_of_mem c member)]
  have inside : isBoundary c = false := by
    rw [boundary_of_literal literal List.mem_cons_self, solid]
  rw [readPiece_word inside, same]

theorem IsLiteral.of_subset {text part : List Char} (literal : IsLiteral text)
    (within : part ⊆ text) : IsLiteral part := by
  intro c member
  exact literal c (within member)

theorem readFrom_literal {text : List Char} (literal : IsLiteral text) (offset : Nat) :
    readFrom offset 0 text =
      .ok ((((Text.words text).map bareWord).filter (!·.isEmpty)).map .word) := by
  induction size : text.length using Nat.strong_induction_on generalizing text offset with
  | _ bound ih =>
    cases text with
    | nil => rfl
    | cons c rest =>
      rw [List.length_cons] at size
      cases blank : Text.isBlank c with
      | true =>
        have skipped := readPiece_blank blank rest
        have literal_rest := literal.of_subset (List.subset_cons_self c rest)
        have later := ih rest.length (by omega) literal_rest (offset + c.utf8Size) rfl
        rw [Text.words_of_blank blank]
        simp only [readFrom, skipped, later, Option.toList_none, List.nil_append]
      | false =>
        have piece := readPiece_literal literal blank
        have behind : (rest.dropWhile (!Text.isBlank ·)) <:+ rest := List.dropWhile_suffix _
        have literal_behind : IsLiteral (rest.dropWhile (!Text.isBlank ·)) :=
          literal.of_subset (List.subset_cons_of_subset c behind.subset)
        rw [Text.words_of_solid blank]
        generalize run : rest.takeWhile (!Text.isBlank ·) = word at piece
        obtain ⟨next, goes⟩ := readFrom_pending (offset + c.utf8Size) word.length rest
        have dropped : rest.drop word.length = rest.dropWhile (!Text.isBlank ·) := by
          have whole : word ++ rest.dropWhile (!Text.isBlank ·) = rest := by
            rw [← run, List.takeWhile_append_dropWhile]
          conv_lhs => rw [← whole, List.drop_left]
        have shorter := behind.length_le
        have later := ih _ (by omega) literal_behind next rfl
        simp only [readFrom, piece, goes, dropped, later]
        cases gone : (bareWord (c :: word)).isEmpty <;> simp [gone]

theorem read_literal {text : List Char} (literal : IsLiteral text) :
    read text = .ok ((literalWords text).map .word) := by
  rw [literalWords_eq]
  exact readFrom_literal literal 0

theorem items_words (ws : List (List Char)) :
    items (ws.map .word) = Regex.literals (Text.unwords ws) := by
  induction ws with
  | nil => rfl
  | cons word rest ih =>
    cases rest with
    | nil => simp [items, Piece.items, Text.unwords]
    | cons next others =>
      rw [Text.unwords_cons_cons, List.map_cons, List.map_cons, items, ← List.map_cons, ih,
        Regex.literals, Regex.literals, List.map_append]
      rfl

theorem mem_blanks {gap : List Char} :
    gap ∈ Regex.language blanks ↔ ∀ c ∈ gap, Text.isBlank c = true := Regex.mem_run

end Pattern

def endMarks : List Char := ['?', '!', '.']

theorem endMark_is_mark {c : Char} (ending : c ∈ endMarks) : Pattern.isPunctuation c = true := by
  simp only [endMarks, List.mem_cons, List.not_mem_nil, or_false] at ending
  rcases ending with rfl | rfl | rfl <;> rfl

def EndsAfter (body text : List Char) : Prop :=
  ∃ gap marks, text = body ++ gap ++ marks ∧ (∀ c ∈ gap, Text.isBlank c = true) ∧
    ∀ c ∈ marks, c ∈ endMarks

theorem accepts_endMark (c : Char) :
    Regex.CharTest.accepts (.anyOf endMarks) c = true ↔ c ∈ endMarks := by
  have only (mark : Char) (ending : mark ∈ endMarks) : Text.sameLetter mark c = true ↔ c = mark :=
    Text.same_of_caseless (Text.punctuation_caseless (endMark_is_mark ending))
  simp only [Regex.CharTest.accepts, List.any_eq_true]
  constructor
  · rintro ⟨mark, ending, same⟩
    rwa [(only mark ending).mp same]
  · intro ending
    exact ⟨c, ending, (only c ending).mpr rfl⟩

theorem mem_replyEnd {text : List Char} :
    text ∈ (Regex.sequence replyEnd).language ↔ EndsAfter [] text := by
  have marked {marks : List Char} :
      marks ∈ (Regex.sequence [.repeated (.one (.anyOf endMarks)) 0 none true]).language ↔
        ∀ c ∈ marks, c ∈ endMarks := by
    have alone : (Regex.sequence [.repeated (.one (.anyOf endMarks)) 0 none true]).language =
        Regex.language (.repeated (.one (.anyOf endMarks)) 0 none true) := mul_one _
    rw [alone, Regex.mem_run]
    simp only [accepts_endMark]
  constructor
  · rintro ⟨gap, blank, marks, ending, rfl⟩
    exact ⟨gap, marks, rfl, Pattern.mem_blanks.mp blank, marked.mp ending⟩
  · rintro ⟨gap, marks, rfl, blank, ending⟩
    exact ⟨gap, Pattern.mem_blanks.mpr blank, marks, marked.mpr ending, rfl⟩

/-- Literal characters match up to letter case, and blanks and marks may follow. -/
theorem mem_literal_reply {pattern text : List Char} :
    text ∈ (Regex.sequence (Regex.literals pattern ++ replyEnd)).language ↔
      ∃ body, Text.SameLetters pattern body ∧ EndsAfter body text := by
  rw [Regex.language_append, Language.mem_mul]
  constructor
  · rintro ⟨body, same, ending, follows, rfl⟩
    obtain ⟨gap, marks, rfl, blank, marked⟩ := mem_replyEnd.mp follows
    exact ⟨body, Regex.mem_literals.mp same, gap, marks, by simp, blank, marked⟩
  · rintro ⟨body, same, gap, marks, rfl, blank, marked⟩
    refine ⟨body, Regex.mem_literals.mpr same, gap ++ marks, ?_, by simp⟩
    exact mem_replyEnd.mpr ⟨gap, marks, rfl, blank, marked⟩

def WithinSizeLimit (text : String) : Prop :=
  ∀ clean, Pattern.grammar text = .ok clean →
    Regex.build (conversationRegex clean) ≠ .error .tooLarge

theorem withinSizeLimit_iff {text clean : String} (cleaned : Pattern.grammar text = .ok clean) :
    WithinSizeLimit text ↔ Regex.build (conversationRegex clean) ≠ .error .tooLarge := by
  constructor
  · intro fits
    exact fits clean cleaned
  · intro fits other same
    rw [cleaned, Except.ok.injEq] at same
    rwa [← same]

theorem withinSizeLimit_of_built {text clean : String} (cleaned : Pattern.grammar text = .ok clean)
    (built : (Regex.build (conversationRegex clean)).toOption.isSome = true) :
    WithinSizeLimit text := by
  rw [withinSizeLimit_iff cleaned]
  intro refused
  rw [refused] at built
  cases built

def replyLanguage (pieces : List Pattern.Piece) : Language Char :=
  (Regex.sequence (Pattern.items pieces ++ replyEnd)).language

/-- A standard engine makes of a conversation a test for the replies that its pieces ask for, unless
it refuses the expression for its size. -/
theorem conversation_expression {engine : Regex.Engine} (standard : engine.Standard)
    {text clean : String} {pieces : List Pattern.Piece}
    (read : Pattern.read text.toList = .ok pieces) (cleaned : Pattern.grammar text = .ok clean) :
    ¬ WithinSizeLimit text ∧
        engine (conversationRegex clean) = .error Regex.BuildFault.tooLarge.message ∨
      WithinSizeLimit text ∧ ∃ test, engine (conversationRegex clean) = .ok test ∧
        ∀ reply, test reply = true ↔ reply ∈ replyLanguage pieces := by
  obtain ⟨others, same, written⟩ := grammar_isSequence cleaned
  rw [read, Except.ok.injEq] at same
  subst same
  have unanchored : (Regex.sequence (Pattern.items pieces ++ replyEnd)).isUnanchored = true := by
    have first := written.unanchored
    rw [Regex.sequence_unanchored] at first ⊢
    rw [List.all_append, first]
    rfl
  have parses := conversation_parses written
  rw [withinSizeLimit_iff cleaned, Regex.build_of_parse parses, standard.of_parse parses]
  split
  · refine .inr ⟨by simp, _, rfl, ?_⟩
    intro reply
    rw [Regex.anchored_matches]
    exact Regex.matchesWhole_iff unanchored reply
  · exact .inl ⟨by simp, rfl⟩

theorem literal_expression {engine : Regex.Engine} (standard : engine.Standard)
    {text clean : String} (literal : Pattern.IsLiteral text.toList) (fits : WithinSizeLimit text)
    (cleaned : Pattern.grammar text = .ok clean) :
    ∃ test, engine (conversationRegex clean) = .ok test ∧
      ∀ reply, test reply = true ↔
        ∃ body, Text.SameLetters (Text.unwords (Pattern.literalWords text.toList)) body ∧
          EndsAfter body reply := by
  rcases conversation_expression standard (Pattern.read_literal literal) cleaned with
    ⟨large, _⟩ | ⟨_, test, built, matched⟩
  · exact absurd fits large
  · refine ⟨test, built, ?_⟩
    intro reply
    rw [matched, replyLanguage, Pattern.items_words]
    exact mem_literal_reply

namespace Graph

variable {options : Options} {expander : Concept.Expander} {name text : String}
  {script : CompiledScript} {id : Identifier} {gambit : Gambit} {conversation : Conversation}

theorem resolve_keeps_raw (engine : Regex.Engine) (graph : Graph) (id : Identifier)
    (conversation : Conversation) (clean : String) :
    (graph.resolve engine id conversation clean).1.raw = conversation.raw := by
  simp only [resolve]
  split <;> rfl

theorem compiled_conversation_resolved
    (ok : (compileText options expander name text).1 = .ok script)
    (found : script.graph.gambits[id]? = some gambit)
    (held : gambit.conversation = some conversation) :
    ∃ clean, options.cleanPattern conversation.raw = .ok clean ∧
      conversation.replies =
        (script.graph.resolve options.engine id conversation clean).1.replies := by
  rcases compileText_cases ok with
    ⟨_, rfl⟩ | ⟨_, _, lowered, _, resolved, _, compiled, _, _, _, resolves, compiles, rfl⟩
  · simp at found
  · obtain ⟨before, _, there, triggered⟩ := revised_from compiles found
    rw [compileTrigger_changes_trigger triggered] at held
    obtain ⟨first, _, _, changed⟩ := revised_from resolves there
    have replies : compiled.replies = lowered.replies :=
      (revise_spec compiles).2.1.trans (revise_spec resolves).2.1
    rcases resolveConversation_cases changed with
      ⟨silent, rfl, _⟩ | ⟨written, clean, _, cleaned, rfl, _⟩
    · rw [silent] at held
      cases held
    · simp only [Option.some.injEq] at held
      subst held
      refine ⟨clean, ?_, ?_⟩
      · rw [resolve_keeps_raw]
        exact cleaned
      · simp only [resolve, repliesMatching, replies]
        split <;> rfl

theorem compiled_conversation (ok : (compileText options expander name text).1 = .ok script)
    (found : script.graph.gambits[id]? = some gambit)
    (held : gambit.conversation = some conversation) :
    ∃ clean, options.cleanPattern conversation.raw = .ok clean ∧
      ∀ test, options.engine (conversationRegex clean) = .ok test →
        conversation.replies = script.graph.repliesMatching test := by
  obtain ⟨clean, cleaned, leads⟩ := compiled_conversation_resolved ok found held
  refine ⟨clean, cleaned, ?_⟩
  intro test built
  rw [leads]
  simp only [resolve, built]

theorem mem_repliesMatching {graph : Graph} (wf : graph.WellFormed)
    {test : List Char → Bool} {id : Identifier} {reply : Reply}
    (found : graph.replies[id]? = some reply) :
    id ∈ graph.repliesMatching test ↔ test reply.text.toList = true := by
  rw [repliesMatching, List.mem_map]
  constructor
  · rintro ⟨other, kept, named⟩
    obtain ⟨member, matched⟩ := List.mem_filter.mp kept
    obtain ⟨key, there⟩ := mem_values_iff.mp member
    have same : key = id := (wf.reply_key key other there).symm.trans named
    rw [same, found, Option.some.injEq] at there
    rwa [there]
  · intro matched
    refine ⟨reply, ?_, wf.reply_key id reply found⟩
    exact List.mem_filter.mpr ⟨mem_values_iff.mpr ⟨id, found⟩, matched⟩

theorem literal_conversation (builtIn : options.grammar = Pattern.grammar)
    (standard : options.engine.Standard)
    (ok : (compileText options expander name text).1 = .ok script)
    (found : script.graph.gambits[id]? = some gambit)
    (held : gambit.conversation = some conversation)
    (literal : Pattern.IsLiteral conversation.raw.toList) (fits : WithinSizeLimit conversation.raw)
    {target : Identifier} {reply : Reply} (isReply : script.graph.replies[target]? = some reply) :
    target ∈ conversation.replies ↔
      ∃ body, Text.SameLetters (Text.unwords (Pattern.literalWords conversation.raw.toList)) body ∧
        EndsAfter body reply.text.toList := by
  obtain ⟨clean, cleaned, leads⟩ := compiled_conversation ok found held
  obtain ⟨test, built, matched⟩ :=
    literal_expression standard literal fits (cleaned_by_grammar builtIn cleaned)
  rw [leads test built, mem_repliesMatching (compileText_well_formed ok) isReply, matched]

end Graph

end DialogueScript
