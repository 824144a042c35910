import DialogueScript.Proofs.ResolvedReplies
import Mathlib.Order.CompletePartialOrder

/- Pieces that may be absent. An optional group, a star and a limited number of words match the
   empty text, and any blanks may stand on both sides of them, so that what stood between their
   neighbours without them can stand there still. -/
namespace DialogueScript

namespace Pattern
open Regex

def Piece.mayBeAbsent : Piece → Bool
  | .optional _ | .anyText | .upTo _ => true
  | _ => false

variable {piece : Piece} {before after : List Piece}

theorem absent_is_not_solid (absent : piece.mayBeAbsent = true) : piece.isSolid = false := by
  cases piece with
  | word | concept | choice => cases absent
  | _ => rfl

theorem one_le_copies (members : Language Char) (most : Option Nat) :
    1 ≤ copies members 0 most := by
  intro text empty
  rw [(Language.mem_one text).mp empty]
  exact ⟨0, Nat.le_refl 0, fun bound _ => Nat.zero_le bound, rfl⟩

theorem one_le_absent (absent : piece.mayBeAbsent = true) :
    1 ≤ (sequence piece.items).language := by
  cases piece with
  | optional alternatives =>
    rw [Piece.items, language_single]
    exact one_le_copies _ _
  | anyText =>
    rw [Piece.items, language_single, language, language_single]
    exact one_le_copies _ _
  | upTo count =>
    rw [Piece.items, language_single, wordsBetween, language, language_single]
    exact one_le_copies _ _
  | _ => cases absent

theorem one_le_blanks : 1 ≤ language blanks := one_le_copies _ _

theorem separator_within_blanks (left right : Piece) :
    (separatorItem left right).language ≤ language blanks := by
  unfold separatorItem
  split
  · rintro _ ⟨c, rfl, same⟩
    rw [(Text.same_of_caseless (Text.blank_caseless rfl)).mp same]
    exact mem_blanks.mpr (List.forall_mem_singleton.mpr rfl)
  · exact le_refl _

theorem separator_before (absent : piece.mayBeAbsent = true) (right : Piece) :
    separatorItem piece right = blanks := by
  rw [separatorItem, absent_is_not_solid absent]
  rfl

theorem separator_behind (absent : piece.mayBeAbsent = true) (left : Piece) :
    separatorItem left piece = blanks := by
  rw [separatorItem, absent_is_not_solid absent, Bool.and_false]
  rfl

theorem language_cons_cons (first second : Piece) (rest : List Piece) :
    (sequence (items (first :: second :: rest))).language =
      (sequence first.items).language *
        ((separatorItem first second).language * (sequence (items (second :: rest))).language) := by
  rw [items, language_append]
  rfl

theorem absent_in_front (absent : piece.mayBeAbsent = true) (after : List Piece) :
    (sequence (items after)).language ≤ (sequence (items (piece :: after))).language := by
  cases after with
  | nil => exact one_le_absent absent
  | cons next rest =>
    rw [language_cons_cons, separator_before absent]
    calc (sequence (items (next :: rest))).language
      _ = 1 * (1 * (sequence (items (next :: rest))).language) := by rw [one_mul, one_mul]
      _ ≤ _ := mul_le_mul' (one_le_absent absent) (mul_le_mul' one_le_blanks le_rfl)

theorem absent_behind (absent : piece.mayBeAbsent = true) (first : Piece) (after : List Piece) :
    (sequence (items (first :: after))).language ≤
      (sequence (items (first :: piece :: after))).language := by
  rw [language_cons_cons, separator_behind absent]
  cases after with
  | nil =>
    calc (sequence (items [first])).language
      _ = (sequence first.items).language * (1 * 1) := by rw [mul_one, mul_one, items]
      _ ≤ _ := mul_le_mul' le_rfl (mul_le_mul' one_le_blanks (one_le_absent absent))
  | cons next rest =>
    rw [language_cons_cons]
    exact mul_le_mul' le_rfl
      (mul_le_mul' (separator_within_blanks first next) (absent_in_front absent (next :: rest)))

/-- What a row of pieces matches without a piece that may be absent, it matches with it. -/
theorem language_with_absent (absent : piece.mayBeAbsent = true) (before after : List Piece) :
    (sequence (items (before ++ after))).language ≤
      (sequence (items (before ++ piece :: after))).language := by
  induction before with
  | nil => exact absent_in_front absent after
  | cons first rest ih =>
    cases rest with
    | nil => exact absent_behind absent first after
    | cons next others =>
      simp only [List.cons_append] at ih ⊢
      rw [language_cons_cons, language_cons_cons]
      exact mul_le_mul' le_rfl (mul_le_mul' le_rfl ih)

theorem replies_with_absent (absent : piece.mayBeAbsent = true) (before after : List Piece) :
    replyLanguage (before ++ after) ≤ replyLanguage (before ++ piece :: after) := by
  rw [replyLanguage, replyLanguage, language_append, language_append]
  exact mul_le_mul' (language_with_absent absent before after) le_rfl

/-- A text that a row of pieces matches without a piece that may be absent is matched with it, and
so no reply is lost to a conversation that adds such a piece within the size limit. -/
theorem absent_pieces_leave_no_gap (absent : piece.mayBeAbsent = true) (before after : List Piece) :
    ((∀ other ∈ before ++ piece :: after, other.IsProper) →
      ∀ text, fullMatch (render (before ++ after)) text = true →
        fullMatch (render (before ++ piece :: after)) text = true) ∧
    ∀ (options : Options) (short full : String), options.grammar = grammar →
      options.engine.Standard →
      read short.toList = .ok (before ++ after) →
      read full.toList = .ok (before ++ piece :: after) → WithinSizeLimit full →
      (∀ (graph : Graph) (lacking having : Graph.Gambit),
        lacking.conversation.map (·.raw) = some short →
        having.conversation.map (·.raw) = some full →
          ∃ less more, lacking.ResolvesTo options graph less ∧
            having.ResolvesTo options graph more ∧ less.replies ⊆ more.replies) ∧
      ∀ expander name text script, (compileText options expander name text).1 = .ok script →
        ∀ less more, script.graph.HasConversation less → less.raw = short →
          script.graph.HasConversation more → more.raw = full →
            less.replies ⊆ more.replies := by
  constructor
  · intro proper text matched
    have fewer : ∀ other ∈ before ++ after, other.IsProper := by
      intro other member
      apply proper
      rw [List.mem_append, List.mem_cons]
      rcases List.mem_append.mp member with left | right
      · exact .inl left
      · exact .inr (.inr right)
    rw [fullMatch_iff (render_isSequence fewer)] at matched
    rw [fullMatch_iff (render_isSequence proper)]
    exact language_with_absent absent before after matched
  · intro options short full builtIn standard readShort readFull fits
    have wider : ∀ reply, reply ∈ replyLanguage (before ++ after) →
        reply ∈ replyLanguage (before ++ piece :: after) :=
      fun _ asked => replies_with_absent absent before after asked
    constructor
    · intro graph lacking having asksShort asksFull
      obtain ⟨short, heldShort, rfl⟩ := Option.map_eq_some_iff.mp asksShort
      obtain ⟨full, heldFull, rfl⟩ := Option.map_eq_some_iff.mp asksFull
      obtain ⟨less, resolvesLess, leadsLess⟩ :=
        Graph.resolves_to_asked builtIn standard heldShort readShort graph
      obtain ⟨more, resolvesMore, leadsMore⟩ :=
        Graph.resolves_to_asked builtIn standard heldFull readFull graph
      refine ⟨less, more, resolvesLess, resolvesMore, ?_⟩
      intro target member
      exact (leadsMore target).mpr ⟨fits, ((leadsLess target).mp member).2.mono wider⟩
    · rintro expander name text script ok less more heldLess rfl heldMore rfl target member
      have selected := (Graph.compiled_to_asked builtIn standard ok heldLess readShort).mp member
      exact (Graph.compiled_to_asked builtIn standard ok heldMore readFull).mpr
        ⟨fits, selected.2.mono wider⟩

theorem please_may_be_absent :
    read "say yes".toList = .ok [.word "say".toList, .word "yes".toList] ∧
      read "say [please] yes".toList =
        .ok [.word "say".toList, .optional [["please".toList]], .word "yes".toList] ∧
      WithinSizeLimit "say [please] yes" ∧
      fullMatch "say\\s*(?:please)?\\s*yes".toList "say yes".toList = true ∧
      ∀ graph : Graph, ∃ less more, (askingFor "say yes").ResolvesTo {} graph less ∧
        (askingFor "say [please] yes").ResolvesTo {} graph more ∧
        less.replies ⊆ more.replies := by
  have short : read "say yes".toList = .ok [.word "say".toList, .word "yes".toList] := by rfl
  have full : read "say [please] yes".toList =
      .ok [.word "say".toList, .optional [["please".toList]], .word "yes".toList] := by rfl
  have built : (Regex.build (conversationRegex
      (String.ofList (render [.word "say".toList, .optional [["please".toList]],
        .word "yes".toList])))).toOption.isSome = true := by
    decide +kernel
  have fits := withinSizeLimit_of_built (grammar_of_read full) built
  obtain ⟨matching, resolving⟩ := @absent_pieces_leave_no_gap (.optional [["please".toList]]) rfl
    [.word "say".toList] [.word "yes".toList]
  have matched : fullMatch (render [.word "say".toList, .word "yes".toList]) "say yes".toList =
      true := by rfl
  have proper := (read_readsAs full).forall Spells.proper
  refine ⟨short, full, fits, matching proper _ matched, ?_⟩
  intro graph
  exact (resolving {} _ _ rfl Regex.engine_standard short full fits).1 graph _ _ rfl rfl

end Pattern

end DialogueScript
