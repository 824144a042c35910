import DialogueScript.Proofs.CompiledGraphs
import DialogueScript.Proofs.LoweredContent
import DialogueScript.Proofs.PatternGroups
import DialogueScript.Proofs.RegexSyntax
import Mathlib.Data.Nat.Bitwise

/- Clean patterns as expressions. Each piece of a pattern is rendered as a row of items with no bar
   outside of a group, and so is the whole. Therefore the anchors that are put around a clean
   pattern hold for all of it, and the only fault that its expression can have is its size. -/
namespace DialogueScript

namespace Pattern
open Regex

def blanks : Regex CharTest := .repeated (.one .blank) 0 none true

def someBlanks : Regex CharTest := .repeated (.one .blank) 1 none true

def solidRun : Regex CharTest := .repeated (.one .notBlank) 1 none true

def branchesOf (alternatives : List (List (List Char))) : Regex CharTest :=
  choiceOf (alternatives.map fun words => literals (Text.unwords words))

def wordsBetween (least most : Nat) : Regex CharTest :=
  .group true (sequence [
    .repeated (.group false (sequence [solidRun, blanks])) least (some most) true])

def Piece.items : Piece → List (Regex CharTest)
  | .word text => literals text
  | .concept name => literals ('~' :: name)
  | .choice alternatives => [.group true (branchesOf alternatives)]
  | .optional alternatives => [.repeated (.group false (branchesOf alternatives)) 0 (some 1) true]
  | .anyText => [.group true (sequence [.repeated (.one .notLineFeed) 0 none false])]
  | .exactly count =>
    [.group true (sequence [solidRun,
      .repeated (.group false (sequence [someBlanks, solidRun])) (count - 1) (some (count - 1))
        true])]
  | .upTo count => [wordsBetween 0 count]
  | .between least most => [wordsBetween least most]

def separatorItem (left right : Piece) : Regex CharTest :=
  if left.isSolid && right.isSolid then .one (.literal ' ') else blanks

def items : List Piece → List (Regex CharTest)
  | [] => []
  | [piece] => piece.items
  | piece :: next :: rest => piece.items ++ separatorItem piece next :: items (next :: rest)

/-- What the reader grants of a piece, as far as its expression is concerned. -/
def Piece.IsProper : Piece → Prop
  | .concept name => ∀ c ∈ name, isNameCharacter c = true
  | .choice alternatives | .optional alternatives =>
    alternatives ≠ [] ∧ ∀ words ∈ alternatives, Text.unwords words ≠ []
  | .between least most => least ≤ most
  | _ => True

theorem alternatives_proper {body : List Char} {words : List (List Char)}
    (listed : words ∈ readAlternatives body) : Text.unwords words ≠ [] := by
  simp only [readAlternatives, List.mem_filter, List.mem_map] at listed
  obtain ⟨⟨part, _, rfl⟩, left⟩ := listed
  cases words : ((Text.words part).map bareWord).filter (!·.isEmpty) with
  | nil => simp [words] at left
  | cons word others =>
    have isWord : word ∈ ((Text.words part).map bareWord).filter (!·.isEmpty) := by simp [words]
    have solid : word ≠ [] := by simpa using (List.mem_filter.mp isWord).2
    simp [Text.unwords, intercalate_cons, solid]

theorem Spells.proper {taken : List Char} {piece : Piece} (spells : Spells taken (some piece)) :
    piece.IsProper := by
  cases spells with
  | concept _ inName => exact inName
  | choice _ left => exact ⟨left, fun _ listed => alternatives_proper listed⟩
  | optional _ left => exact ⟨left, fun _ listed => alternatives_proper listed⟩
  | between _ _ ordered => exact ordered
  | _ => trivial

theorem blanks_isItem : IsItem ['\\', 's', '*'] blanks := .repeated .blank .star

theorem someBlanks_isItem : IsItem ['\\', 's', '+'] someBlanks := .repeated .blank .plus

theorem solidRun_isItem : IsItem ['\\', 'S', '+'] solidRun := .repeated .notBlank .plus

theorem branches_isChoice {alternatives : List (List (List Char))} (some : alternatives ≠ [])
    (solid : ∀ words ∈ alternatives, Text.unwords words ≠ []) :
    IsChoice (renderAlternatives alternatives) (branchesOf alternatives) := by
  refine choiceOf_isChoice _ _ some fun words listed => ⟨?_, ?_⟩
  · rw [← escape_intercalate (by decide)]
    exact escape_isSequence _
  · simpa [literals] using solid words listed

theorem wordsBetween_isItem {least most : Nat} (ordered : least ≤ most) :
    IsItem (['(', '(', '?', ':', '\\', 'S', '+', '\\', 's', '*', ')', '\x7b'] ++
      (digits least ++ ',' :: digits most) ++ ['\x7d', ')']) (wordsBetween least most) := by
  have unit : IsSequence _ [solidRun, blanks] := .cons solidRun_isItem blanks_isItem.alone
  have counted := (IsItem.repeated (.group false (.branch unit (by simp)))
    (.between ordered)).alone
  have whole := IsAtom.group true (.branch counted (by simp))
  exact .once (by simpa [opening, digits, wordsBetween] using whole)

theorem piece_isSequence {piece : Piece} (proper : piece.IsProper) :
    IsSequence piece.render piece.items := by
  cases piece with
  | word text => exact escape_isSequence text
  | concept name =>
    have plain : ∀ c ∈ '~' :: name, isOperator c = false := by
      simp only [List.mem_cons, forall_eq_or_imp]
      exact ⟨by decide, fun c member => plain_of_test isNameCharacter rfl (proper c member)⟩
    exact literals_isSequence plain
  | choice alternatives =>
    exact (IsItem.once (.group true (branches_isChoice proper.1 proper.2))).alone
  | optional alternatives =>
    have group := IsAtom.group false (branches_isChoice proper.1 proper.2)
    have item := (IsItem.repeated group .optional).alone
    rw [render_optional]
    simpa [opening, Piece.items] using item
  | anyText =>
    have run := (IsItem.repeated .notLineFeed .lazyStar).alone
    exact (IsItem.once (.group true (.branch run (by simp)))).alone
  | exactly count =>
    have unit : IsSequence _ [someBlanks, solidRun] := .cons someBlanks_isItem solidRun_isItem.alone
    have counted := (IsItem.repeated (.group false (.branch unit (by simp)))
      (.exactly (count - 1))).alone
    have whole := IsAtom.group true (.branch (.cons solidRun_isItem counted) (by simp))
    rw [render_exactly]
    exact (IsItem.once (by simpa [opening, digits] using whole)).alone
  | upTo count =>
    rw [render_upTo]
    exact (wordsBetween_isItem (Nat.zero_le count)).alone
  | between least most =>
    rw [render_between]
    exact (wordsBetween_isItem proper).alone

theorem separator_isItem (left right : Piece) :
    IsItem (separator left right) (separatorItem left right) := by
  simp only [separator, separatorItem]
  split
  · exact .once (.literal (by decide))
  · exact blanks_isItem

theorem render_isSequence {pieces : List Piece} (proper : ∀ piece ∈ pieces, piece.IsProper) :
    IsSequence (render pieces) (items pieces) := by
  induction pieces with
  | nil => exact .nil
  | cons piece rest ih =>
    simp only [List.mem_cons, forall_eq_or_imp] at proper
    cases rest with
    | nil => exact piece_isSequence proper.1
    | cons next others =>
      rw [render, items, List.append_assoc]
      exact (piece_isSequence proper.1).append (.cons (separator_isItem piece next) (ih proper.2))

theorem read_isSequence {text : List Char} {pieces : List Piece} (ok : read text = .ok pieces) :
    IsSequence (render pieces) (items pieces) :=
  render_isSequence ((read_readsAs ok).forall Spells.proper)

end Pattern

namespace Regex

def matchesWhole (regex : Regex CharTest) (text : List Char) : Bool :=
  (advance text.length (regex.map (CharTest.positions · text)) 1).testBit text.length

theorem advance_append (length : Nat) (positions : CharTest → Nat)
    (items others : List (Regex CharTest)) (set : Nat) :
    advance length ((sequence (items ++ others)).map positions) set =
      advance length ((sequence others).map positions)
        (advance length ((sequence items).map positions) set) := by
  induction items generalizing set with
  | nil => rfl
  | cons item items ih => exact ih _

theorem everywhere_at_start (length : Nat) : ((1 <<< (length + 1)) - 1) &&& 1 = 1 := by
  rw [Nat.and_one_is_mod, Nat.shiftLeft_eq, Nat.pow_succ]
  have positive := Nat.two_pow_pos length
  omega

/-- Anchors at both ends of a row hold for all of it. -/
theorem anchored_matches (items : List (Regex CharTest)) (text : List Char) :
    (sequence (.atStart :: items ++ [.atEnd])).matchesIn text =
      (sequence items).matchesWhole text := by
  have started : advance text.length ((sequence [.atStart]).map (CharTest.positions · text))
      ((1 <<< (text.length + 1)) - 1) = 1 := everywhere_at_start text.length
  have ended (set : Nat) : advance text.length
      ((sequence [.atEnd]).map (CharTest.positions · text)) set = set &&& 2 ^ text.length := by
    rw [← Nat.one_mul (2 ^ text.length), ← Nat.shiftLeft_eq]
    rfl
  rw [← List.singleton_append, List.append_assoc, matchesIn, matchesWhole, advance_append, started,
    advance_append, ended, Nat.and_two_pow]
  cases (advance text.length ((sequence items).map (CharTest.positions · text)) 1).testBit
    text.length with
  | false => simp
  | true => simp

end Regex

def replyEnd : List (Regex Regex.CharTest) :=
  [Pattern.blanks, .repeated (.one (.anyOf ['?', '!', '.'])) 0 none true]

def replyEndTokens : List Regex.Token :=
  [.test .blank, .times 0 none true, .test (.anyOf ['?', '!', '.']), .times 0 none true, .atEnd]

theorem conversation_tokens {clean : String} {tokens : List Regex.Token}
    (tokenizes : Regex.Tokenizes Regex.EndsItem clean.toList tokens) :
    Regex.tokens? (conversationRegex clean) = some (.atStart :: (tokens ++ replyEndTokens)) := by
  have start : Regex.readToken? '^' (clean.toList ++ "\\s*[?!.]*$".toList) =
      some (.atStart, 0) := rfl
  have tail : Regex.tokens? "\\s*[?!.]*$".toList = some replyEndTokens := rfl
  rw [conversationRegex, List.cons_append, Regex.tokens_cons start, List.drop_zero,
    tokenizes _ (by simp [Regex.EndsItem]), tail]
  rfl

theorem conversation_parses {clean : String} {items : List (Regex Regex.CharTest)}
    (written : Regex.IsSequence clean.toList items) :
    Regex.parse? (conversationRegex clean) =
      some (Regex.sequence (.atStart :: (items ++ replyEnd) ++ [.atEnd])) := by
  obtain ⟨tokens, tokenizes, pushes⟩ := written.parses
  have parsed : Regex.parseTokens? {} [] (.atStart :: (tokens ++ replyEndTokens)) =
      some (Regex.Level.toRegex
        { items := .atEnd :: replyEnd.reverse ++ items.reverse ++ [.atStart] }) := by
    rw [Regex.parseTokens?, pushes]
    rfl
  rw [Regex.parse?, conversation_tokens tokenizes, Option.bind_some, parsed, Regex.Level.toRegex,
    Regex.branch_eq_sequence]
  simp

theorem invalid_of_resolve {engine : Regex.Engine} {graph : Graph} {id gambit : Identifier}
    {conversation : Graph.Conversation} {clean pattern message : String}
    (told : .invalidConversation gambit pattern message ∈
      (graph.resolve engine id conversation clean).2) :
    engine (conversationRegex clean) = .error message := by
  simp only [Graph.resolve] at told
  split at told
  · rename_i broken
    simp only [List.mem_singleton, Diagnostic.invalidConversation.injEq] at told
    rw [broken, told.2.2]
  · split at told <;> simp at told

theorem grammar_isSequence {text clean : String} (ok : Pattern.grammar text = .ok clean) :
    ∃ pieces, Pattern.read text.toList = .ok pieces ∧
      Regex.IsSequence clean.toList (Pattern.items pieces) := by
  simp only [Pattern.grammar] at ok
  split at ok
  · rename_i pieces read
    simp only [Except.ok.injEq] at ok
    rw [← ok, String.toList_ofList]
    exact ⟨pieces, read, Pattern.read_isSequence read⟩
  · simp at ok

theorem fault_is_size {engine : Regex.Engine} (standard : engine.Standard) {text clean : String}
    (ok : Pattern.grammar text = .ok clean) {message : String}
    (broken : engine (conversationRegex clean) = .error message) :
    message = Regex.BuildFault.tooLarge.message := by
  obtain ⟨pieces, _, written⟩ := grammar_isSequence ok
  rw [standard.of_parse (conversation_parses written)] at broken
  split at broken
  · simp at broken
  · exact (Except.error.inj broken).symm

/- What the steps of a compilation tell. -/

variable {options : Options} {gambit after : Graph.Gambit} {told : List Diagnostic}

theorem lowering_tells_repeats {scope : String} {script : Script} {graph : Graph}
    (ok : lowerScript options scope script = .ok (graph, told)) :
    ∀ diagnostic ∈ told, ∃ name, diagnostic = .repeatedTopic name := by
  simp only [lowerScript] at ok
  split at ok
  · rename_i lowered built
    simp only [Except.ok.injEq] at ok
    subst ok
    rw [(Graph.ofScript_represents built).told]
    intro diagnostic member
    obtain ⟨name, _, same⟩ := List.mem_map.mp member
    exact ⟨name, same.symm⟩
  · simp at ok
  · simp at ok

theorem trigger_tells_concepts {expand : String → List String}
    (changed : gambit.compileTrigger options expand = .ok (after, told)) :
    ∀ diagnostic ∈ told, ∃ concept, diagnostic = .conceptNotExpanded gambit.id concept := by
  intro diagnostic member
  rcases Graph.compileTrigger_cases changed with ⟨_, _, rfl⟩ | ⟨_, expansion, _, _, _, rfl⟩
  · simp at member
  · obtain ⟨concept, _, same⟩ := List.mem_map.mp member
    exact ⟨concept, same.symm⟩

theorem cleaned_by_grammar (builtIn : options.grammar = Pattern.grammar) {raw clean : String}
    (cleaned : options.cleanPattern raw = .ok clean) : Pattern.grammar raw = .ok clean := by
  rw [Options.cleanPattern, builtIn] at cleaned
  cases read : Pattern.grammar raw with
  | error refusal => simp [read] at cleaned
  | ok other => simpa [read] using cleaned

theorem conversation_tells_size (builtIn : options.grammar = Pattern.grammar)
    (standard : options.engine.Standard) {graph : Graph}
    (changed : gambit.resolveConversation options graph = .ok (after, told))
    {id : Identifier} {pattern message : String}
    (invalid : .invalidConversation id pattern message ∈ told) :
    message = Regex.BuildFault.tooLarge.message := by
  rcases Graph.resolveConversation_cases changed with
    ⟨_, _, rfl⟩ | ⟨conversation, clean, _, cleaned, _, rfl⟩
  · simp at invalid
  · exact fault_is_size standard (cleaned_by_grammar builtIn cleaned) (invalid_of_resolve invalid)

theorem compiled_tells_size (builtIn : options.grammar = Pattern.grammar)
    (standard : options.engine.Standard) {expander : Concept.Expander}
    {name text : String} {script : CompiledScript}
    (ok : (compileText options expander name text).1 = .ok script)
    {id : Identifier} {pattern message : String}
    (invalid : .invalidConversation id pattern message ∈ script.diagnostics) :
    message = Regex.BuildFault.tooLarge.message := by
  rcases compileText_cases ok with
    ⟨_, rfl⟩ | ⟨_, _, _, repeated, _, unresolved, _, unexpanded, _, lowers, resolves, compiles, rfl⟩
  · simp at invalid
  · simp only [List.mem_append] at invalid
    rcases invalid with (fromLowering | fromConversations) | fromTriggers
    · obtain ⟨_, same⟩ := lowering_tells_repeats lowers _ fromLowering
      simp at same
    · obtain ⟨_, _, _, changed, member⟩ := Graph.revise_told resolves fromConversations
      exact conversation_tells_size builtIn standard changed member
    · obtain ⟨_, _, _, changed, member⟩ := Graph.revise_told compiles fromTriggers
      obtain ⟨_, same⟩ := trigger_tells_concepts changed _ member
      simp at same

/-- A clean pattern of the built-in grammar is an expression, a row of items without a bar outside
of a group, and the anchors of a conversation hold for all of it. So no conversation is ever
refused but for its size. -/
theorem clean_patterns_are_anchored (builtIn : options.grammar = Pattern.grammar)
    (standard : options.engine.Standard) :
    (∀ text clean, options.grammar text = .ok clean →
      ∃ pieces, Pattern.read text.toList = .ok pieces ∧
        Regex.IsSequence clean.toList (Pattern.items pieces) ∧
        ∃ regex, Regex.parse? (conversationRegex clean) = some regex ∧
          (∀ reply, regex.matchesIn reply =
            (Regex.sequence (Pattern.items pieces ++ replyEnd)).matchesWhole reply) ∧
          Regex.build (conversationRegex clean) =
            if regex.fits then .ok regex else .error .tooLarge) ∧
      ∀ expander name text script, (compileText options expander name text).1 = .ok script →
        ∀ id pattern message, .invalidConversation id pattern message ∈ script.diagnostics →
          message = Regex.BuildFault.tooLarge.message := by
  constructor
  · intro text clean ok
    obtain ⟨pieces, read, written⟩ := grammar_isSequence (builtIn ▸ ok)
    have parses := conversation_parses written
    exact ⟨pieces, read, written, _, parses, Regex.anchored_matches _, Regex.build_of_parse parses⟩
  · intro _ _ _ _ ok _ _ _ invalid
    exact compiled_tells_size builtIn standard ok invalid

def samplePattern : String := "say (yes|no way) [please] *(1-3) ~cat?"

def sampleClean : String :=
  "say (yes|no way)\\s*(?:please)?\\s*((?:\\S+\\s*)\x7b1,3\x7d)\\s*~cat"

theorem sample_pattern_is_anchored :
    Pattern.grammar samplePattern = .ok sampleClean ∧
      (∃ pieces, Pattern.read samplePattern.toList = .ok pieces ∧
        Regex.IsSequence sampleClean.toList (Pattern.items pieces) ∧
        ∃ regex, Regex.parse? (conversationRegex sampleClean) = some regex ∧
          (∀ reply, regex.matchesIn reply =
            (Regex.sequence (Pattern.items pieces ++ replyEnd)).matchesWhole reply) ∧
          Regex.build (conversationRegex sampleClean) =
            if regex.fits then .ok regex else .error .tooLarge) ∧
      ∀ expander name text script, (compileText {} expander name text).1 = .ok script →
        ∀ id pattern message, .invalidConversation id pattern message ∈ script.diagnostics →
          message = Regex.BuildFault.tooLarge.message := by
  have cleaned : Pattern.grammar samplePattern = .ok sampleClean := by rfl
  obtain ⟨patterns, compiled⟩ := @clean_patterns_are_anchored {} rfl Regex.engine_standard
  exact ⟨cleaned, patterns samplePattern sampleClean cleaned, compiled⟩

end DialogueScript
