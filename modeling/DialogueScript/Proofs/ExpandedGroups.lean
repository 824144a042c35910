import DialogueScript.Concept.Expansion
import DialogueScript.Proofs.Runs

/- Groups of regular expressions, and what replacing concepts does to them. A backslash and the
   character after it are one literal. A concept is looked for without regard to backslashes: one
   that stands after a backslash is replaced all the same, and the backslash is then left to escape
   the first bracket of what was put in. -/
namespace DialogueScript

namespace Regex

/-- Whether every group of an expression is closed and none is closed that is not open. So many
groups are open before it, and a backslash may stand before it. -/
def groupsClose (depth : Nat) (escaped : Bool) : List Char → Bool
  | [] => depth = 0 && !escaped
  | c :: rest =>
    if escaped then groupsClose depth false rest
    else if c = '\\' then groupsClose depth true rest
    else if c = '(' then groupsClose (depth + 1) false rest
    else if c = ')' then 1 ≤ depth && groupsClose (depth - 1) false rest
    else groupsClose depth false rest

def IsGrouped (text : List Char) : Prop := groupsClose 0 false text = true

instance (text : List Char) : Decidable (IsGrouped text) :=
  inferInstanceAs (Decidable (groupsClose 0 false text = true))

def isFlat (c : Char) : Bool := c ∉ ['\\', '(', ')']

theorem flat_of_test (test : Char → Bool) {c : Char} (passes : test c = true)
    (backslash : test '\\' = false) (opening : test '(' = false) (closing : test ')' = false) :
    isFlat c = true := by
  simp only [isFlat, List.mem_cons, List.not_mem_nil, or_false, decide_eq_true_eq]
  rintro (rfl | rfl | rfl)
  · simp [backslash] at passes
  · simp [opening] at passes
  · simp [closing] at passes

theorem flat_of_not_meta {c : Char} (plain : isMeta c = false) : isFlat c = true :=
  flat_of_test (!isMeta ·) (by simp [plain]) rfl rfl rfl

theorem groupsClose_flat {c : Char} (flat : isFlat c = true) (depth : Nat) (rest : List Char) :
    groupsClose depth false (c :: rest) = groupsClose depth false rest := by
  simp only [isFlat, List.mem_cons, List.not_mem_nil, or_false, not_or, decide_eq_true_eq] at flat
  simp [groupsClose, flat]

theorem groupsClose_flat_run {text : List Char} (flat : ∀ c ∈ text, isFlat c = true) (depth : Nat)
    (rest : List Char) : groupsClose depth false (text ++ rest) = groupsClose depth false rest := by
  induction text with
  | nil => rfl
  | cons c text ih =>
    simp only [List.mem_cons, forall_eq_or_imp] at flat
    rw [List.cons_append, groupsClose_flat flat.1, ih flat.2]

theorem groupsClose_escape (text : List Char) (depth : Nat) (rest : List Char) :
    groupsClose depth false (escape text ++ rest) = groupsClose depth false rest := by
  induction text with
  | nil => rfl
  | cons c text ih =>
    simp only [escape, List.flatMap_cons, List.append_assoc] at ih ⊢
    cases special : isMeta c with
    | true => simp [escapeChar, special, groupsClose, ih]
    | false =>
      simp only [escapeChar, special, Bool.false_eq_true, ↓reduceIte, List.singleton_append]
      rw [groupsClose_flat (flat_of_not_meta special), ih]

theorem groupsClose_intercalate {texts : List (List Char)}
    (each : ∀ text ∈ texts, ∀ depth rest,
      groupsClose depth false (text ++ rest) = groupsClose depth false rest)
    (depth : Nat) (rest : List Char) :
    groupsClose depth false (['|'].intercalate texts ++ rest) = groupsClose depth false rest := by
  induction texts with
  | nil => rfl
  | cons text others ih =>
    simp only [List.mem_cons, forall_eq_or_imp] at each
    cases others with
    | nil => simpa using each.1 depth rest
    | cons next others =>
      simp only [List.intercalate_cons_cons, List.append_assoc]
      rw [each.1, List.singleton_append, groupsClose_flat (by decide), ih each.2]

end Regex

namespace Concept
open Regex

theorem groupsClose_spellings (words : List String) (name : List Char) (depth : Nat)
    (rest : List Char) :
    groupsClose depth false (['|'].intercalate (spellings words name) ++ rest) =
      groupsClose depth false rest := by
  refine groupsClose_intercalate ?_ depth rest
  intro text member
  simp only [spellings, List.mem_eraseDups, List.mem_filter, List.mem_map] at member
  obtain ⟨⟨word, _, rfl⟩, _⟩ := member
  exact groupsClose_escape _

theorem alternation_eq (words : List String) (name : List Char) :
    alternation words name =
      ['(', '?', '=', '^', '|', '\\', 's', ')', '\\', 's', '*', '('] ++
        ['|'].intercalate (spellings words name) ++
        [')', '(', '?', '=', '\\', 's', '|', '$', ')', '\\', 's', '*'] := rfl

theorem groupsClose_alternation (words : List String) (name : List Char) (depth : Nat)
    (rest : List Char) :
    groupsClose depth false (alternation words name ++ rest) = groupsClose depth false rest := by
  simp [alternation_eq, groupsClose, groupsClose_spellings]

/-- If its first bracket is escaped, the next one closes a group from outside. -/
theorem groupsClose_escaped_alternation (words : List String) (name : List Char) (depth : Nat)
    (rest : List Char) :
    groupsClose depth true (alternation words name ++ rest) =
      (decide (1 ≤ depth) && groupsClose (depth - 1) false rest) := by
  simp [alternation_eq, groupsClose, groupsClose_spellings]

theorem partsAfter_eq (pending : Nat) (text : List Char) :
    partsAfter pending text = parts (text.drop pending) := by
  induction pending generalizing text with
  | zero => rfl
  | succ pending ih =>
    cases text with
    | nil => rfl
    | cons c rest => exact ih rest

theorem flat_of_blank {c : Char} (blank : Text.isBlank c = true) : isFlat c = true :=
  flat_of_test _ blank rfl rfl rfl

theorem flat_of_word_character {c : Char} (inWord : Text.isWordCharacter c = true) :
    isFlat c = true :=
  flat_of_test _ inWord rfl rfl rfl

structure Occurrence.Stands (occurrence : Occurrence) (rest : List Char) : Prop where
  before_blank : ∀ c ∈ occurrence.before, Text.isBlank c = true
  named : occurrence.name ≠ []
  in_word : ∀ c ∈ occurrence.name, Text.isWordCharacter c = true
  word_ends : ∀ c ∈ (occurrence.after ++ rest).head?, Text.isWordCharacter c = false
  after_blank : ∀ c ∈ occurrence.after, Text.isBlank c = true
  blanks_end : ∀ c ∈ rest.head?, Text.isBlank c = false

theorem occurrence_eq_some_iff {text : List Char} {occurrence : Occurrence} :
    occurrence? text = some occurrence ↔
      ∃ rest, text = occurrence.toList ++ rest ∧ occurrence.Stands rest := by
  constructor
  · intro found
    simp only [occurrence?] at found
    split at found
    · rename_i tail tilde
      split at found
      · cases found
      · rename_i named
        rw [drop_run] at found
        cases found
        have word := List.takeWhile_append_dropWhile (p := Text.isWordCharacter) (l := tail)
        have gap := List.takeWhile_append_dropWhile (p := Text.isBlank)
          (l := tail.dropWhile Text.isWordCharacter)
        refine ⟨(tail.dropWhile Text.isWordCharacter).dropWhile Text.isBlank, ?_, ?_⟩
        · rw [Occurrence.toList, List.append_assoc, gap, List.append_assoc, List.cons_append, word,
            ← tilde, List.takeWhile_append_dropWhile]
        · refine ⟨fun _ => List.mem_takeWhile_imp, by simpa using named,
            fun _ => List.mem_takeWhile_imp, ?_, fun _ => List.mem_takeWhile_imp, run_ends _ _⟩
          rw [gap]
          exact run_ends _ _
    · cases found
  · rintro ⟨rest, rfl, stands⟩
    have tilde : ∀ c ∈ ('~' :: (occurrence.name ++ (occurrence.after ++ rest))).head?,
        Text.isBlank c = false := by
      rintro c ⟨⟩
      rfl
    obtain ⟨before, behind⟩ := cut_at_run stands.before_blank tilde
    obtain ⟨name, follows⟩ := cut_at_run stands.in_word stands.word_ends
    obtain ⟨after, _⟩ := cut_at_run stands.after_blank stands.blanks_end
    have shape : occurrence.toList ++ rest =
        occurrence.before ++ '~' :: (occurrence.name ++ (occurrence.after ++ rest)) := by
      simp [Occurrence.toList]
    simp only [occurrence?, shape, behind, before, name, List.drop_left, after]
    simp [stands.named]

theorem occurrence_spec {text : List Char} {occurrence : Occurrence}
    (found : occurrence? text = some occurrence) :
    (∃ rest, text = occurrence.toList ++ rest) ∧ ∀ c ∈ occurrence.toList, isFlat c = true := by
  obtain ⟨rest, split, stands⟩ := occurrence_eq_some_iff.mp found
  refine ⟨⟨rest, split⟩, ?_⟩
  intro c member
  simp only [Occurrence.toList, List.append_assoc, List.cons_append, List.mem_append,
    List.mem_cons] at member
  rcases member with blank | rfl | inName | blank
  · exact flat_of_blank (stands.before_blank c blank)
  · decide
  · exact flat_of_word_character (stands.in_word c inName)
  · exact flat_of_blank (stands.after_blank c blank)

theorem occurrence_nonempty (occurrence : Occurrence) :
    ∃ c rest, occurrence.toList = c :: rest := by
  cases text : occurrence.toList with
  | nil => simp [Occurrence.toList] at text
  | cons c rest => exact ⟨c, rest, rfl⟩

theorem parts_of_occurrence {text rest : List Char} {occurrence : Occurrence}
    (found : occurrence? text = some occurrence) (split : text = occurrence.toList ++ rest) :
    parts text = .concept occurrence :: parts rest := by
  obtain ⟨c, others, shape⟩ := occurrence_nonempty occurrence
  rw [shape, List.cons_append] at split
  subst split
  simp only [parts, partsAfter, found, shape, List.length_cons, Nat.add_sub_cancel]
  rw [partsAfter_eq, List.drop_left]
  rfl

def isReplaced (expand : String → List String) (text : List Char) : Bool :=
  (occurrence? text).any fun occurrence => !(expand occurrence.word).isEmpty

/-- Whether the groups of a text will close once its concepts are replaced. It differs from
`groupsClose` where a concept that is replaced stands after a backslash. -/
def expandedGroupsClose (expand : String → List String) (depth : Nat) (escaped : Bool) :
    List Char → Bool
  | [] => depth = 0 && !escaped
  | c :: rest =>
    if escaped then
      if isReplaced expand (c :: rest) then
        1 ≤ depth && expandedGroupsClose expand (depth - 1) false rest
      else expandedGroupsClose expand depth false rest
    else if c = '\\' then expandedGroupsClose expand depth true rest
    else if c = '(' then expandedGroupsClose expand (depth + 1) false rest
    else if c = ')' then 1 ≤ depth && expandedGroupsClose expand (depth - 1) false rest
    else expandedGroupsClose expand depth false rest

section Expanding

variable (expand : String → List String)

theorem expanded_flat {c : Char} (flat : isFlat c = true) (depth : Nat) (rest : List Char) :
    expandedGroupsClose expand depth false (c :: rest) =
      expandedGroupsClose expand depth false rest := by
  simp only [isFlat, List.mem_cons, List.not_mem_nil, or_false, not_or, decide_eq_true_eq] at flat
  simp [expandedGroupsClose, flat]

theorem expanded_flat_run {text : List Char} (flat : ∀ c ∈ text, isFlat c = true) (depth : Nat)
    (rest : List Char) :
    expandedGroupsClose expand depth false (text ++ rest) =
      expandedGroupsClose expand depth false rest := by
  induction text with
  | nil => rfl
  | cons c text ih =>
    simp only [List.mem_cons, forall_eq_or_imp] at flat
    rw [List.cons_append, expanded_flat expand flat.1, ih flat.2]

/-- Reading what replacement makes of a text comes to reading the text with an eye on its
concepts. -/
theorem groupsClose_expanded (text : List Char) (depth : Nat) (escaped : Bool) :
    groupsClose depth escaped ((parts text).flatMap (Part.render expand)) =
      expandedGroupsClose expand depth escaped text := by
  -- An occurrence takes up several characters at once, so the induction is on the length.
  induction size : text.length using Nat.strongRecOn generalizing text depth escaped with
  | _ size ih =>
  subst size
  cases text with
  | nil => rfl
  | cons c rest =>
    cases found : occurrence? (c :: rest) with
    | none =>
      have plain : parts (c :: rest) = .plain c :: parts rest := by
        simp only [parts, partsAfter, found]
      have later := fun depth escaped => ih rest.length (by simp) rest depth escaped rfl
      have kept : isReplaced expand (c :: rest) = false := by simp [isReplaced, found]
      simp only [plain, List.flatMap_cons, Part.render, List.singleton_append, groupsClose,
        expandedGroupsClose, later, kept, Bool.false_eq_true, ↓reduceIte]
    | some occurrence =>
      obtain ⟨⟨after, split⟩, flat⟩ := occurrence_spec found
      obtain ⟨head, others, shape⟩ := occurrence_nonempty occurrence
      have shorter : after.length < (c :: rest).length := by
        rw [split, shape]
        simp only [List.length_append, List.length_cons]
        omega
      have later := fun depth => ih after.length shorter after depth false rfl
      have replaced : isReplaced expand (c :: rest) = !(expand occurrence.word).isEmpty := by
        simp [isReplaced, found]
      rw [parts_of_occurrence found split, List.flatMap_cons]
      rw [split] at replaced ⊢
      cases escaped with
      | false =>
        rw [expanded_flat_run expand flat, ← later]
        simp only [Part.render]
        split
        · exact groupsClose_flat_run flat depth _
        · exact groupsClose_alternation _ _ depth _
      | true =>
        rw [shape] at flat replaced ⊢
        simp only [List.mem_cons, forall_eq_or_imp] at flat
        simp only [List.cons_append, expandedGroupsClose, ↓reduceIte] at replaced ⊢
        simp only [replaced, expanded_flat_run expand flat.2, ← later, Part.render]
        cases known : (expand occurrence.word).isEmpty with
        | true =>
          simp [shape, groupsClose, groupsClose_flat_run flat.2]
        | false => simp [groupsClose_escaped_alternation]

theorem nothing_replaced {c : Char} (solid : Text.isBlank c = false) (noTilde : c ≠ '~')
    (rest : List Char) : isReplaced expand (c :: rest) = false := by
  simp [isReplaced, occurrence?, solid, noTilde]

theorem expanded_escaped {c : Char} (solid : Text.isBlank c = false) (noTilde : c ≠ '~')
    (depth : Nat) (rest : List Char) :
    expandedGroupsClose expand depth false ('\\' :: c :: rest) =
      expandedGroupsClose expand depth false rest := by
  simp [expandedGroupsClose, nothing_replaced expand solid noTilde]

theorem expanded_escaped_tilde (depth : Nat) (rest : List Char) :
    expandedGroupsClose expand depth false ('\\' :: '~' :: rest) =
      if !(rest.takeWhile Text.isWordCharacter).isEmpty &&
          !(expand (String.ofList (rest.takeWhile Text.isWordCharacter))).isEmpty then
        1 ≤ depth && expandedGroupsClose expand (depth - 1) false rest
      else expandedGroupsClose expand depth false rest := by
  have solid : Text.isBlank '~' = false := by decide
  have replaced : isReplaced expand ('~' :: rest) =
      (!(rest.takeWhile Text.isWordCharacter).isEmpty &&
        !(expand (String.ofList (rest.takeWhile Text.isWordCharacter))).isEmpty) := by
    simp only [isReplaced, occurrence?, List.dropWhile_cons, solid, Bool.false_eq_true, ↓reduceIte]
    cases (rest.takeWhile Text.isWordCharacter).isEmpty <;> simp [Occurrence.word]
  simp [expandedGroupsClose, replaced]

end Expanding

end Concept

end DialogueScript
