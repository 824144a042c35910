import DialogueScript.Proofs.DirectoryRuns
import DialogueScript.Proofs.ExpandedGroups
import DialogueScript.Proofs.ReadPieces
import Mathlib.Algebra.GroupWithZero.Nat

/- The groups of clean patterns. Rendering closes every group that it opens, and escapes the words
   in it. A tilde that was escaped inside a group can still head a concept: the groups of a
   trigger's pattern close exactly if no such concept has words. -/
namespace DialogueScript

namespace Pattern
open DialogueScript.Regex DialogueScript.Concept

def namesIn : List Char → List String
  | [] => []
  | c :: rest =>
    let name := rest.takeWhile Text.isWordCharacter
    if c = '~' ∧ name ≠ [] then String.ofList name :: namesIn rest else namesIn rest

/-- The names after a tilde in the words of a group. The group has them as plain text, but they are
found when concepts are replaced. -/
def Piece.hiddenConcepts : Piece → List String
  | .choice alternatives | .optional alternatives => alternatives.flatten.flatMap namesIn
  | _ => []

def replacedIn (expand : String → List String) (names : List String) : Nat :=
  names.countP fun name => !(expand name).isEmpty

theorem replacedIn_eq_zero {expand : String → List String} {names : List String} :
    replacedIn expand names = 0 ↔ ∀ name ∈ names, expand name = [] := by
  simp [replacedIn]

theorem namesIn_plain {run : List Char} (plain : '~' ∉ run) (rest : List Char) :
    namesIn (run ++ rest) = namesIn rest := by
  induction run with
  | nil => rfl
  | cons c run ih =>
    simp only [List.mem_cons, not_or] at plain
    simp [namesIn, Ne.symm plain.1, ih plain.2]

theorem namesIn_eq_nil {word : List Char} (noTilde : '~' ∉ word) : namesIn word = [] := by
  simpa [namesIn] using namesIn_plain noTilde []

/-- A name that stands at the end of what comes before would not go on here. -/
def EndsName (rest : List Char) : Prop := rest.takeWhile Text.isWordCharacter = []

theorem endsName_cons {c : Char} (outside : Text.isWordCharacter c = false) (rest : List Char) :
    EndsName (c :: rest) := by
  simp [EndsName, outside]

theorem meta_is_solid {c : Char} (special : isMeta c = true) :
    Text.isBlank c = false ∧ Text.isWordCharacter c = false := by
  have each : metaCharacters.all (fun other =>
      !Text.isBlank other && !Text.isWordCharacter other) = true := rfl
  have solid := List.all_eq_true.mp each c (List.contains_iff_mem.mp special)
  simpa using solid

theorem name_of_escaped (word : List Char) {rest : List Char} (ends : EndsName rest) :
    (escape word ++ rest).takeWhile Text.isWordCharacter =
      word.takeWhile Text.isWordCharacter := by
  induction word with
  | nil => exact ends
  | cons c word ih =>
    have backslash : Text.isWordCharacter '\\' = false := by decide
    simp only [escape, List.flatMap_cons, List.append_assoc] at ih ⊢
    cases special : isMeta c with
    | true =>
      simp [escapeChar, special, backslash, meta_is_solid special]
    | false =>
      simp only [escapeChar, special, Bool.false_eq_true, ↓reduceIte, List.singleton_append,
        List.takeWhile_cons, ih]

section Rendering

variable (expand : String → List String)

/-- What a text does to the groups around it: it closes so many of them. -/
def Closes (count : Nat) (text : List Char) : Prop :=
  ∀ depth rest, EndsName rest →
    expandedGroupsClose expand depth false (text ++ rest) =
      (decide (count ≤ depth) && expandedGroupsClose expand (depth - count) false rest)

theorem closing_adds (first second depth : Nat) (rest : List Char) :
    (decide (first ≤ depth) && (decide (second ≤ depth - first) &&
        expandedGroupsClose expand (depth - first - second) false rest)) =
      (decide (first + second ≤ depth) &&
        expandedGroupsClose expand (depth - (first + second)) false rest) := by
  have both : first + second ≤ depth ↔ first ≤ depth ∧ second ≤ depth - first := by omega
  rw [← Bool.and_assoc, Nat.sub_sub, decide_eq_decide.mpr both, Bool.decide_and]

theorem replaced_at_tilde {word : List Char} (named : word.takeWhile Text.isWordCharacter ≠ [])
    (known : expand (String.ofList (word.takeWhile Text.isWordCharacter)) ≠ []) :
    replacedIn expand (namesIn ('~' :: word)) = 1 + replacedIn expand (namesIn word) := by
  simp [namesIn, named, replacedIn, known, Nat.add_comm]

theorem not_replaced {c : Char} {word : List Char}
    (kept : c = '~' → word.takeWhile Text.isWordCharacter ≠ [] →
      expand (String.ofList (word.takeWhile Text.isWordCharacter)) = []) :
    replacedIn expand (namesIn (c :: word)) = replacedIn expand (namesIn word) := by
  simp only [namesIn]
  split
  · rename_i tilde
    simp [replacedIn, kept tilde.1 tilde.2]
  · rfl

theorem escaped_word_closes (word : List Char) :
    Closes expand (replacedIn expand (namesIn word)) (escape word) := by
  intro depth rest ends
  induction word generalizing depth with
  | nil => simp [escape, namesIn, replacedIn]
  | cons c word ih =>
    have name := name_of_escaped word ends
    have step : escape (c :: word) ++ rest = escapeChar c ++ (escape word ++ rest) := by
      simp [escape]
    rw [step]
    cases special : isMeta c with
    | false =>
      have noTilde : c ≠ '~' := by
        rintro rfl
        exact absurd special (by decide)
      simp only [escapeChar, special, Bool.false_eq_true, ↓reduceIte, List.singleton_append]
      rw [expanded_flat expand (flat_of_not_meta special), ih,
        not_replaced expand fun same => absurd same noTilde]
    | true =>
      simp only [escapeChar, special, ↓reduceIte, List.cons_append, List.nil_append]
      by_cases tilde : c = '~'
      · subst tilde
        rw [expanded_escaped_tilde, name, ih, ih]
        by_cases named : word.takeWhile Text.isWordCharacter = []
        · rw [not_replaced expand fun _ other => absurd named other]
          simp [named]
        · by_cases known : expand (String.ofList (word.takeWhile Text.isWordCharacter)) = []
          · rw [not_replaced expand fun _ _ => known]
            simp [known]
          · rw [replaced_at_tilde expand named known, ← closing_adds]
            simp [named, known]
      · rw [expanded_escaped expand (meta_is_solid special).1 tilde, ih,
          not_replaced expand fun same => absurd same tilde]

theorem intercalate_closes {separator : Char} (flat : isFlat separator = true)
    (outside : Text.isWordCharacter separator = false) {α : Type} (count : α → Nat)
    (text : α → List Char) (items : List α)
    (each : ∀ item ∈ items, Closes expand (count item) (text item)) :
    Closes expand (items.map count).sum ([separator].intercalate (items.map text)) := by
  intro depth rest ends
  induction items generalizing depth with
  | nil => simp
  | cons item others ih =>
    simp only [List.mem_cons, forall_eq_or_imp] at each
    cases others with
    | nil => simpa using each.1 depth rest ends
    | cons next others =>
      simp only [List.map_cons, List.intercalate_cons_cons, List.append_assoc,
        List.cons_append, List.nil_append, List.sum_cons]
      rw [each.1 depth _ (endsName_cons outside _), expanded_flat expand flat]
      simp only [List.map_cons, List.sum_cons] at ih
      rw [ih each.2, closing_adds]

theorem alternatives_close (alternatives : List (List (List Char))) :
    Closes expand (replacedIn expand (alternatives.flatten.flatMap namesIn))
      (renderAlternatives alternatives) := by
  have words : ∀ words ∈ alternatives, Closes expand
      (words.map fun word => replacedIn expand (namesIn word)).sum
      ([' '].intercalate (words.map escape)) := fun words _ =>
    intercalate_closes expand (by decide) (by decide) _ _ words
      fun word _ => escaped_word_closes expand word
  have total : replacedIn expand (alternatives.flatten.flatMap namesIn) =
      (alternatives.map fun words =>
        (words.map fun word => replacedIn expand (namesIn word)).sum).sum := by
    simp [replacedIn, List.countP_flatMap, List.sum_flatten, Function.comp_def]
  rw [total]
  exact intercalate_closes expand (by decide) (by decide) _ _ alternatives words

def OpensGroup (before : List Char) : Prop :=
  ∀ text, expandedGroupsClose expand 0 false (before ++ text) =
    expandedGroupsClose expand 1 false text

/-- A group that something inside it closes is not closed at its own end. -/
theorem group_closes {before : List Char} (opens : OpensGroup expand before)
    (alternatives : List (List (List Char))) (rest : List Char) :
    expandedGroupsClose expand 0 false
        (before ++ (renderAlternatives alternatives ++ ')' :: rest)) =
      (decide (replacedIn expand (alternatives.flatten.flatMap namesIn) = 0) &&
        expandedGroupsClose expand 0 false rest) := by
  rw [opens, alternatives_close expand alternatives 1 _ (endsName_cons (by decide) _)]
  -- One replaced name closes the group too early, and two close one that is not open.
  rcases replacedIn expand (alternatives.flatten.flatMap namesIn) with _ | _ | more
  · simp [expandedGroupsClose]
  · simp [expandedGroupsClose]
  · simp

theorem counted_closes {before : List Char} (opens : OpensGroup expand before)
    {bounds : List Char} (flat : ∀ c ∈ bounds, isFlat c = true) (rest : List Char) :
    expandedGroupsClose expand 0 false (before ++ (bounds ++ '\x7d' :: ')' :: rest)) =
      expandedGroupsClose expand 0 false rest := by
  rw [opens, expanded_flat_run expand flat]
  simp [expandedGroupsClose]

theorem digits_flat (n : Nat) : ∀ c ∈ digits n, isFlat c = true := fun _ member =>
  flat_of_test _ (Nat.isDigit_of_mem_toDigits (by decide) (by decide) member) rfl rfl rfl

theorem name_character_flat {c : Char} (inName : isNameCharacter c = true) : isFlat c = true :=
  flat_of_test _ inName rfl rfl rfl

/-- What the reader grants of a piece, as far as its groups are concerned. -/
def Piece.IsClean : Piece → Prop
  | .word text => '~' ∉ text
  | .concept name => ∀ c ∈ name, isNameCharacter c = true
  | _ => True

/- The renderings of the pieces that open a group, character by character. -/

theorem render_choice (alternatives : List (List (List Char))) :
    (Piece.choice alternatives).render = '(' :: renderAlternatives alternatives ++ [')'] := rfl

theorem render_optional (alternatives : List (List (List Char))) :
    (Piece.optional alternatives).render =
      ['(', '?', ':'] ++ renderAlternatives alternatives ++ [')', '?'] := rfl

theorem render_anyText : Piece.render .anyText = ['(', '.', '*', '?', ')'] := rfl

theorem render_exactly (count : Nat) :
    (Piece.exactly count).render =
      ['(', '\\', 'S', '+', '(', '?', ':', '\\', 's', '+', '\\', 'S', '+', ')', '\x7b'] ++
        digits (count - 1) ++ ['\x7d', ')'] := rfl

theorem render_upTo (count : Nat) :
    (Piece.upTo count).render =
      ['(', '(', '?', ':', '\\', 'S', '+', '\\', 's', '*', ')', '\x7b'] ++
        ('0' :: ',' :: digits count) ++ ['\x7d', ')'] := rfl

theorem render_between (least most : Nat) :
    (Piece.between least most).render =
      ['(', '(', '?', ':', '\\', 'S', '+', '\\', 's', '*', ')', '\x7b'] ++
        (digits least ++ ',' :: digits most) ++ ['\x7d', ')'] := by
  rw [← List.append_assoc]
  rfl

theorem piece_closes {piece : Piece} (clean : piece.IsClean) {rest : List Char}
    (ends : EndsName rest) :
    expandedGroupsClose expand 0 false (piece.render ++ rest) =
      (decide (replacedIn expand piece.hiddenConcepts = 0) &&
        expandedGroupsClose expand 0 false rest) := by
  have blank := nothing_replaced expand (c := 's') (by decide) (by decide)
  have solid := nothing_replaced expand (c := 'S') (by decide) (by decide)
  have counted : ∀ bounds : List Char, (∀ c ∈ bounds, isFlat c = true) →
      expandedGroupsClose expand 0 false
          (['(', '(', '?', ':', '\\', 'S', '+', '\\', 's', '*', ')', '\x7b'] ++ bounds ++
            ['\x7d', ')'] ++ rest) =
        expandedGroupsClose expand 0 false rest := by
    intro bounds flat
    have opens : OpensGroup expand ['(', '(', '?', ':', '\\', 'S', '+', '\\', 's', '*', ')',
        '\x7b'] := fun text => by simp [expandedGroupsClose, blank, solid]
    simpa using counted_closes expand opens flat rest
  cases piece with
  | word text =>
    have closes := escaped_word_closes expand text 0 rest ends
    rw [namesIn_eq_nil clean] at closes
    exact closes
  | concept name =>
    have flat : ∀ c ∈ '~' :: name, isFlat c = true := by
      simp only [List.mem_cons, forall_eq_or_imp]
      exact ⟨by decide, fun c member => name_character_flat (clean c member)⟩
    exact expanded_flat_run expand flat 0 rest
  | choice alternatives =>
    have opens : OpensGroup expand ['('] := fun text => by simp [expandedGroupsClose]
    have hidden : (Piece.choice alternatives).hiddenConcepts =
        alternatives.flatten.flatMap namesIn := rfl
    rw [hidden, render_choice]
    simpa using group_closes expand opens alternatives rest
  | optional alternatives =>
    have opens : OpensGroup expand ['(', '?', ':'] := fun text => by simp [expandedGroupsClose]
    have closes := group_closes expand opens alternatives ('?' :: rest)
    have hidden : (Piece.optional alternatives).hiddenConcepts =
        alternatives.flatten.flatMap namesIn := rfl
    rw [expanded_flat expand (by decide)] at closes
    rw [hidden, render_optional]
    simpa using closes
  | anyText => simp [render_anyText, expandedGroupsClose, Piece.hiddenConcepts, replacedIn]
  | exactly count =>
    have opens : OpensGroup expand ['(', '\\', 'S', '+', '(', '?', ':', '\\', 's', '+', '\\', 'S',
        '+', ')', '\x7b'] := fun text => by simp [expandedGroupsClose, blank, solid]
    simpa [render_exactly, Piece.hiddenConcepts, replacedIn] using
      counted_closes expand opens (digits_flat (count - 1)) rest
  | upTo count =>
    rw [render_upTo, counted]
    · simp [Piece.hiddenConcepts, replacedIn]
    · simp only [List.mem_cons, forall_eq_or_imp]
      exact ⟨by decide, by decide, digits_flat count⟩
  | between least most =>
    rw [render_between, counted]
    · simp [Piece.hiddenConcepts, replacedIn]
    · simp only [List.mem_append, List.mem_cons]
      rintro c (low | rfl | high)
      · exact digits_flat least c low
      · decide
      · exact digits_flat most c high

theorem separator_ends_name (left right : Piece) (rest : List Char) :
    EndsName (separator left right ++ rest) ∧
      expandedGroupsClose expand 0 false (separator left right ++ rest) =
        expandedGroupsClose expand 0 false rest := by
  have blanks : "\\s*".toList = ['\\', 's', '*'] := rfl
  have kept := nothing_replaced expand (c := 's') (by decide) (by decide)
  simp only [separator, blanks]
  split
  · exact ⟨endsName_cons (by decide) _, expanded_flat expand (by decide) 0 rest⟩
  · exact ⟨endsName_cons (by decide) _, by simp [expandedGroupsClose, kept]⟩

/-- The groups of a rendered pattern close once its concepts are replaced, unless one of them is
hidden in a group. -/
theorem rendered_groups_close {pieces : List Piece} (clean : ∀ piece ∈ pieces, piece.IsClean) :
    expandedGroupsClose expand 0 false (render pieces) = true ↔
      ∀ piece ∈ pieces, replacedIn expand piece.hiddenConcepts = 0 := by
  induction pieces with
  | nil => simp [render, expandedGroupsClose]
  | cons piece rest ih =>
    simp only [List.mem_cons, forall_eq_or_imp] at clean
    cases rest with
    | nil =>
      have closes := piece_closes expand clean.1 (rfl : EndsName [])
      rw [List.append_nil] at closes
      simp [render, closes, expandedGroupsClose]
    | cons next others =>
      obtain ⟨ends, same⟩ := separator_ends_name expand piece next (render (next :: others))
      simp only [render, List.append_assoc] at ends same ih ⊢
      rw [piece_closes expand clean.1 ends, same]
      simp only [Bool.and_eq_true, decide_eq_true_eq, ih clean.2, List.mem_cons, forall_eq_or_imp]

end Rendering

theorem word_without_tilde {text : List Char} (inside : ∀ c ∈ text, isBoundary c = false) :
    '~' ∉ bareWord text := by
  intro member
  have kept := inside '~' (List.mem_filter.mp member).1
  exact absurd kept (by decide)

theorem Spells.clean {taken : List Char} {piece : Piece} (spells : Spells taken (some piece)) :
    piece.IsClean := by
  cases spells with
  | word inside _ => exact word_without_tilde inside
  | concept _ inName => exact inName
  | _ => trivial

theorem readFrom_clean {offset pending : Nat} {text : List Char} {pieces : List Piece}
    (ok : readFrom offset pending text = .ok pieces) : ∀ piece ∈ pieces, piece.IsClean :=
  (readFrom_readsAs ok).forall Spells.clean

end Pattern

/-- A trigger that the grammar reads has a pattern whose groups close, unless a group of it has a
tilde before a name that the sources have words for. -/
theorem trigger_groups_close_iff {options : Options} {raw clean : String}
    (builtIn : options.grammar = Pattern.grammar) (ok : normalizeTrigger options raw = .ok clean) :
    ∃ pieces, Pattern.read (Text.canonical raw).toList = .ok pieces ∧
      (Regex.IsGrouped clean.toList ↔
        ∀ piece ∈ pieces, ∀ name ∈ piece.hiddenConcepts, options.sources.expand name = []) := by
  rw [normalizeTrigger_eq] at ok
  obtain ⟨expansion, compiled, rfl⟩ := map_ok_iff.mp ok
  obtain ⟨rendered, cleaned, rfl⟩ := map_ok_iff.mp compiled
  simp only [Options.cleanTrigger, Options.cleanPattern, builtIn, Pattern.grammar] at cleaned
  cases read : Pattern.read (Text.canonical raw).toList with
  | error fault => simp [read] at cleaned
  | ok pieces =>
    simp only [read, Except.ok.injEq] at cleaned
    refine ⟨pieces, rfl, ?_⟩
    subst cleaned
    simp only [Regex.IsGrouped, Concept.expandPattern, String.toList_ofList,
      Concept.groupsClose_expanded]
    rw [Pattern.rendered_groups_close _ (Pattern.readFrom_clean read)]
    simp only [Pattern.replacedIn_eq_zero]

def oneFact : Options :=
  { sources := { facts := some fun word => if word = "b" then some ["c"] else none } }

theorem concept_beside_group_closes :
    normalizeTrigger oneFact "(a|x) ~b *2" =
        .ok "(a|x)(?=^|\\s)\\s*(c|b)(?=\\s|$)\\s*\\s*(\\S+(?:\\s+\\S+)\x7b1\x7d)" ∧
      ∃ pieces, Pattern.read (Text.canonical "(a|x) ~b *2").toList = .ok pieces ∧
        (Regex.IsGrouped
            "(a|x)(?=^|\\s)\\s*(c|b)(?=\\s|$)\\s*\\s*(\\S+(?:\\s+\\S+)\x7b1\x7d)".toList ↔
          ∀ piece ∈ pieces, ∀ name ∈ piece.hiddenConcepts, oneFact.sources.expand name = []) := by
  have ok : normalizeTrigger oneFact "(a|x) ~b *2" =
      .ok "(a|x)(?=^|\\s)\\s*(c|b)(?=\\s|$)\\s*\\s*(\\S+(?:\\s+\\S+)\x7b1\x7d)" := by
    rfl
  exact ⟨ok, trigger_groups_close_iff rfl ok⟩

theorem concept_inside_group_breaks_it :
    normalizeTrigger oneFact "(a~b)" = .ok "(a\\(?=^|\\s)\\s*(c|b)(?=\\s|$)\\s*)" ∧
      ¬ Regex.IsGrouped "(a\\(?=^|\\s)\\s*(c|b)(?=\\s|$)\\s*)".toList :=
  ⟨rfl, by decide⟩

end DialogueScript
