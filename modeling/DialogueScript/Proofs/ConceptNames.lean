import DialogueScript.Proofs.PatternGroups
import DialogueScript.Proofs.TextCuts

/- Where the concepts of a pattern are found again. The reader takes letters, numerals of any kind
   and low lines for a name. Replacement looks at the clean pattern instead, and takes the longest
   run of word characters after a tilde. A numeral such as one half ends that run: the two agree on
   a name exactly if all of it is word characters. -/
namespace DialogueScript

namespace Pattern
open DialogueScript.Regex DialogueScript.Concept

def Piece.conceptName? : Piece → Option String
  | .concept name => some (String.ofList name)
  | _ => none

def conceptNames (pieces : List Piece) : List String := pieces.filterMap Piece.conceptName?

def leadingWord? (name : String) : Option String :=
  let word := name.toList.takeWhile Text.isWordCharacter
  if word = [] then none else some (String.ofList word)

/-- Whether a tilde stands between brackets. The closing bracket that is waited for is given. -/
def tildeInBrackets : (closing : Option Char) → List Char → Bool
  | _, [] => false
  | some close, c :: rest =>
    if c = close then tildeInBrackets none rest else c == '~' || tildeInBrackets (some close) rest
  | none, c :: rest =>
    if c = '(' then tildeInBrackets (some ')') rest
    else if c = '[' then tildeInBrackets (some ']') rest
    else tildeInBrackets none rest

def Piece.IsPlain : Piece → Prop
  | .choice alternatives | .optional alternatives =>
    ∀ words ∈ alternatives, ∀ word ∈ words, '~' ∉ word
  | _ => True

/- From the text to its pieces. -/

theorem outside_brackets {run : List Char} (flat : ∀ c ∈ run, c ≠ '(' ∧ c ≠ '[')
    (rest : List Char) : tildeInBrackets none (run ++ rest) = tildeInBrackets none rest := by
  induction run with
  | nil => rfl
  | cons c run ih =>
    simp only [List.mem_cons, forall_eq_or_imp] at flat
    simp [tildeInBrackets, flat.1, ih flat.2]

theorem inside_brackets {close : Char} {body : List Char} (inside : close ∉ body)
    {rest : List Char} (none_found : tildeInBrackets (some close) (body ++ close :: rest) = false) :
    '~' ∉ body ∧ tildeInBrackets none rest = false := by
  induction body with
  | nil => simpa [tildeInBrackets] using none_found
  | cons c body ih =>
    simp only [List.mem_cons, not_or] at inside
    simp only [List.cons_append, tildeInBrackets, Ne.symm inside.1, ↓reduceIte,
      Bool.or_eq_false_iff, beq_eq_false_iff_ne] at none_found
    obtain ⟨body_plain, later⟩ := ih inside.2 none_found.2
    simp only [List.mem_cons, not_or]
    exact ⟨⟨Ne.symm none_found.1, body_plain⟩, later⟩

theorem word_of_alternatives {body : List Char} {words : List (List Char)} {word : List Char}
    (listed : words ∈ readAlternatives body) (isWord : word ∈ words) : word ⊆ body := by
  simp only [readAlternatives, List.mem_filter, List.mem_map] at listed
  obtain ⟨⟨part, isPart, rfl⟩, _⟩ := listed
  simp only [List.mem_filter, List.mem_map] at isWord
  obtain ⟨⟨run, isRun, rfl⟩, _⟩ := isWord
  rw [List.splitOn_eq_splitOnP] at isPart
  intro c member
  have inRun : c ∈ run := (List.mem_filter.mp member).1
  exact (Text.split_part isPart c ((Text.word_spec isRun).2 c inRun).1).1

theorem alternatives_plain {body : List Char} (plain : '~' ∉ body) :
    ∀ words ∈ readAlternatives body, ∀ word ∈ words, '~' ∉ word :=
  fun _ listed _ isWord member => plain (word_of_alternatives listed isWord member)

theorem no_bracket_of_test (test : Char → Bool) {run : List Char}
    (passes : ∀ c ∈ run, test c = true) (round : test '(' = false) (square : test '[' = false) :
    ∀ c ∈ run, c ≠ '(' ∧ c ≠ '[' := by
  intro c member
  have pass := passes c member
  constructor
  · rintro rfl
    simp [round] at pass
  · rintro rfl
    simp [square] at pass

/-- One step of the reader leaves the brackets that it met behind. -/
theorem Spells.plain {taken rest : List Char} {piece : Option Piece} (spells : Spells taken piece)
    (none_found : tildeInBrackets none (taken ++ rest) = false) :
    (∀ found, piece = some found → found.IsPlain) ∧ tildeInBrackets none rest = false := by
  have skip (test : Char → Bool) (passes : ∀ c ∈ taken, test c = true) (round : test '(' = false)
      (square : test '[' = false) : tildeInBrackets none rest = false := by
    rwa [outside_brackets (no_bracket_of_test test passes round square)] at none_found
  cases spells with
  | blank blank => exact ⟨by simp, skip Text.isBlank (by simpa using blank) rfl rfl⟩
  | word inside _ =>
    refine ⟨by rintro _ ⟨⟩; trivial, skip (!isBoundary ·) (by simpa using inside) rfl rfl⟩
  | punctuation inside _ => exact ⟨by simp, skip (!isBoundary ·) (by simpa using inside) rfl rfl⟩
  | concept _ inName =>
    refine ⟨by rintro _ ⟨⟩; trivial, skip (fun c => c == '~' || isNameCharacter c) ?_ rfl rfl⟩
    simp only [List.mem_cons, forall_eq_or_imp, beq_self_eq_true, Bool.true_or, true_and]
    exact fun c member => by simp [inName c member]
  | choice inside _ =>
    obtain ⟨plain, later⟩ :=
      inside_brackets inside (by simpa [tildeInBrackets] using none_found)
    exact ⟨by rintro _ ⟨⟩; exact alternatives_plain plain, later⟩
  | optional inside _ =>
    obtain ⟨plain, later⟩ :=
      inside_brackets inside (by simpa [tildeInBrackets] using none_found)
    exact ⟨by rintro _ ⟨⟩; exact alternatives_plain plain, later⟩
  | anyText => exact ⟨by rintro _ ⟨⟩; trivial, skip (· == '*') (by simp) rfl rfl⟩
  | exactly counts _ =>
    refine ⟨by rintro _ ⟨⟩; trivial, skip (fun c => c == '*' || c.isDigit) ?_ rfl rfl⟩
    simp only [List.mem_cons, forall_eq_or_imp, beq_self_eq_true, Bool.true_or, true_and]
    exact fun c member => by simp [count_is_digits counts c member]
  | upTo counts =>
    refine ⟨by rintro _ ⟨⟩; trivial,
      skip (fun c => c == '*' || c == '~' || c.isDigit) ?_ rfl rfl⟩
    simp only [List.mem_cons, forall_eq_or_imp, beq_self_eq_true, Bool.true_or, Bool.or_true,
      true_and]
    exact fun c member => by simp [count_is_digits counts c member]
  | between inside _ _ =>
    obtain ⟨_, later⟩ := inside_brackets inside (by simpa [tildeInBrackets] using none_found)
    exact ⟨by rintro _ ⟨⟩; trivial, later⟩

theorem ReadsAs.plain {text : List Char} {pieces : List Piece} (reads : ReadsAs text pieces)
    (none_found : tildeInBrackets none text = false) : ∀ piece ∈ pieces, piece.IsPlain := by
  induction reads with
  | nil => simp
  | cons spells later ih =>
    obtain ⟨plain, none_later⟩ := spells.plain none_found
    intro piece member
    rw [List.mem_append, Option.mem_toList] at member
    rcases member with here | there
    · exact plain piece here
    · exact ih none_later piece there

/- From the pieces to the names in their rendering. -/

theorem escape_plain {word : List Char} (plain : '~' ∉ word) : '~' ∉ escape word := by
  intro member
  obtain ⟨c, inWord, escaped⟩ := List.mem_flatMap.mp member
  have same : '~' = c := by
    simp only [escapeChar] at escaped
    split at escaped <;> simpa using escaped
  exact plain (same ▸ inWord)

theorem renderAlternatives_plain {alternatives : List (List (List Char))}
    (plain : ∀ words ∈ alternatives, ∀ word ∈ words, '~' ∉ word) :
    '~' ∉ renderAlternatives alternatives := by
  refine Text.not_mem_intercalate (by decide) ?_
  simp only [List.mem_map, forall_exists_index, and_imp, forall_apply_eq_imp_iff₂]
  intro words listed
  refine Text.not_mem_intercalate (by decide) ?_
  simp only [List.mem_map, forall_exists_index, and_imp, forall_apply_eq_imp_iff₂]
  exact fun word isWord => escape_plain (plain words listed word isWord)

theorem digits_plain (n : Nat) : '~' ∉ digits n := fun member =>
  absurd (Nat.isDigit_of_mem_toDigits (by decide) (by decide) member) (by decide)

theorem render_plain {piece : Piece} (clean : piece.IsClean) (plain : piece.IsPlain)
    (other : piece.conceptName? = none) : '~' ∉ piece.render := by
  cases piece with
  | word text => exact escape_plain clean
  | concept name => simp [Piece.conceptName?] at other
  | choice alternatives => simpa [render_choice] using renderAlternatives_plain plain
  | optional alternatives => simpa [render_optional] using renderAlternatives_plain plain
  | anyText => decide
  | exactly count => simp [render_exactly, digits_plain]
  | upTo count => simp [render_upTo, digits_plain]
  | between least most => simp [render_between, digits_plain]

theorem namesIn_concept {name : List Char} (inName : ∀ c ∈ name, isNameCharacter c = true)
    {rest : List Char} (ends : EndsName rest) :
    namesIn ('~' :: name ++ rest) =
      (leadingWord? (String.ofList name)).toList ++ namesIn rest := by
  have plain : '~' ∉ name := fun member => absurd (inName _ member) (by decide)
  have cut : (name ++ rest).takeWhile Text.isWordCharacter =
      name.takeWhile Text.isWordCharacter := by
    rw [List.takeWhile_append]
    split
    · rename_i whole
      rw [List.IsPrefix.eq_of_length (List.takeWhile_prefix _) whole, ends, List.append_nil]
    · rfl
  simp only [List.cons_append, namesIn, cut, true_and, leadingWord?, String.toList_ofList,
    namesIn_plain plain]
  by_cases named : name.takeWhile Text.isWordCharacter = [] <;> simp [named]

theorem namesIn_piece {piece : Piece} (clean : piece.IsClean) (plain : piece.IsPlain)
    {rest : List Char} (ends : EndsName rest) :
    namesIn (piece.render ++ rest) =
      (piece.conceptName?.bind leadingWord?).toList ++ namesIn rest := by
  cases piece with
  | concept name => exact namesIn_concept clean ends
  | _ => exact namesIn_plain (render_plain clean plain rfl) rest

theorem namesIn_separator (left right : Piece) (rest : List Char) :
    namesIn (separator left right ++ rest) = namesIn rest := by
  refine namesIn_plain ?_ rest
  simp only [separator]
  split <;> decide

theorem namesIn_render {pieces : List Piece} (clean : ∀ piece ∈ pieces, piece.IsClean)
    (plain : ∀ piece ∈ pieces, piece.IsPlain) :
    namesIn (render pieces) = (conceptNames pieces).filterMap leadingWord? := by
  rw [conceptNames, List.filterMap_filterMap, List.filterMap_eq_flatMap_toList]
  induction pieces with
  | nil => rfl
  | cons piece rest ih =>
    simp only [List.mem_cons, forall_eq_or_imp] at clean plain
    rw [List.flatMap_cons, ← ih clean.2 plain.2]
    cases rest with
    | nil => simpa [render] using namesIn_piece clean.1 plain.1 (rfl : EndsName [])
    | cons next others =>
      have ends := (separator_ends_name (fun _ => []) piece next (render (next :: others))).1
      rw [render, List.append_assoc, namesIn_piece clean.1 plain.1 ends, namesIn_separator]

/- From the clean pattern to the words that are asked for. -/

theorem names_of_occurrence {text rest : List Char} {occurrence : Occurrence}
    (found : occurrence? text = some occurrence) (split : text = occurrence.toList ++ rest) :
    namesIn text = occurrence.word :: namesIn rest := by
  obtain ⟨behind, again, stands⟩ := occurrence_eq_some_iff.mp found
  cases List.append_cancel_left (again.symm.trans split)
  have blank_plain : ∀ run : List Char, (∀ c ∈ run, Text.isBlank c = true) → '~' ∉ run :=
    fun run blank member => absurd (blank _ member) (by decide)
  have word_plain : '~' ∉ occurrence.name := fun member =>
    absurd (stands.in_word _ member) (by decide)
  have word : (occurrence.name ++ (occurrence.after ++ rest)).takeWhile Text.isWordCharacter =
      occurrence.name := (cut_at_run stands.in_word stands.word_ends).1
  have shape : text =
      occurrence.before ++ '~' :: (occurrence.name ++ (occurrence.after ++ rest)) := by
    rw [split]
    simp [Occurrence.toList]
  rw [shape, namesIn_plain (blank_plain _ stands.before_blank), namesIn, word,
    if_pos ⟨rfl, stands.named⟩, namesIn_plain word_plain,
    namesIn_plain (blank_plain _ stands.after_blank)]
  rfl

theorem words_of_parts (text : List Char) : (parts text).filterMap Part.word? = namesIn text := by
  -- An occurrence takes up several characters at once, so the induction is on the length.
  induction size : text.length using Nat.strongRecOn generalizing text with
  | _ size ih =>
  subst size
  cases text with
  | nil => rfl
  | cons c rest =>
    cases found : occurrence? (c :: rest) with
    | none =>
      have plain : parts (c :: rest) = .plain c :: parts rest := by
        simp only [parts, partsAfter, found]
      have unnamed : ¬ (c = '~' ∧ rest.takeWhile Text.isWordCharacter ≠ []) := by
        rintro ⟨rfl, named⟩
        have solid : Text.isBlank '~' = false := by decide
        simp [occurrence?, solid, named] at found
      rw [plain, namesIn, if_neg unnamed, ← ih rest.length (by simp) rest rfl]
      rfl
    | some occurrence =>
      obtain ⟨⟨after, split⟩, _⟩ := occurrence_spec found
      have shorter : after.length < (c :: rest).length := by
        obtain ⟨head, others, shape⟩ := occurrence_nonempty occurrence
        rw [split, shape]
        simp only [List.length_append, List.length_cons]
        omega
      rw [parts_of_occurrence found split, names_of_occurrence found split,
        ← ih after.length shorter after rfl]
      rfl

theorem leadingWord_eq_self {name : String} (named : name ≠ "") :
    leadingWord? name = some name ↔ ∀ c ∈ name.toList, Text.isWordCharacter c = true := by
  rw [← List.takeWhile_eq_self_iff]
  constructor
  · intro same
    simp only [leadingWord?, Option.ite_none_left_eq_some, Option.some.injEq] at same
    rw [← String.toList_ofList (l := name.toList.takeWhile _), same.2]
  · intro whole
    simp [leadingWord?, whole, named]

theorem filterMap_eq_self_iff {α : Type} {f : α → Option α} {xs : List α} :
    xs.filterMap f = xs ↔ ∀ x ∈ xs, f x = some x := by
  induction xs with
  | nil => simp
  | cons x xs ih =>
    simp only [List.mem_cons, forall_eq_or_imp, ← ih]
    cases image : f x with
    | none =>
      have shorter := List.length_filterMap_le f xs
      simp only [List.filterMap_cons, image, reduceCtorEq, false_and, iff_false]
      intro same
      rw [same, List.length_cons] at shorter
      omega
    | some y => simp [image]

theorem Spells.concept_named {taken : List Char} {piece : Piece}
    (spells : Spells taken (some piece)) : ∀ name, piece.conceptName? = some name → name ≠ "" := by
  cases spells with
  | concept named _ =>
    rintro name ⟨⟩
    simpa using named
  | _ => simp [Piece.conceptName?]

end Pattern

/-- The words that are asked for in a clean pattern are the beginnings of the concept names in its
text. They are these names themselves exactly if the names have no other than word characters. -/
theorem asked_words_are_concepts_iff {text clean : String} (ok : Pattern.grammar text = .ok clean)
    (outside : Pattern.tildeInBrackets none text.toList = false) :
    ∃ pieces, Pattern.read text.toList = .ok pieces ∧
      Concept.wordsToAsk clean =
        (Pattern.conceptNames pieces).filterMap Pattern.leadingWord? ∧
      (Concept.wordsToAsk clean = Pattern.conceptNames pieces ↔
        ∀ name ∈ Pattern.conceptNames pieces, ∀ c ∈ name.toList,
          Text.isWordCharacter c = true) := by
  simp only [Pattern.grammar] at ok
  split at ok
  · rename_i pieces read
    simp only [Except.ok.injEq] at ok
    subst ok
    have clean := Pattern.readFrom_clean read
    have plain := (Pattern.read_readsAs read).plain outside
    have asked : Concept.wordsToAsk (String.ofList (Pattern.render pieces)) =
        (Pattern.conceptNames pieces).filterMap Pattern.leadingWord? := by
      rw [Concept.wordsToAsk, String.toList_ofList, Pattern.words_of_parts,
        Pattern.namesIn_render clean plain]
    have named := (Pattern.read_readsAs read).forall Pattern.Spells.concept_named
    refine ⟨pieces, read, asked, ?_⟩
    rw [asked, Pattern.filterMap_eq_self_iff]
    refine forall₂_congr fun name member => ?_
    obtain ⟨piece, isPiece, isName⟩ := List.mem_filterMap.mp member
    exact Pattern.leadingWord_eq_self (named piece isPiece name isName)
  · simp at ok

theorem concepts_beside_group_are_found :
    Pattern.grammar "(tell|say) me *~2 about ~animal_1 ~été" =
        .ok "(tell|say) me\\s*((?:\\S+\\s*)\x7b0,2\x7d)\\s*about ~animal_1 ~été" ∧
      Pattern.tildeInBrackets none "(tell|say) me *~2 about ~animal_1 ~été".toList = false ∧
      ∃ pieces, Pattern.read "(tell|say) me *~2 about ~animal_1 ~été".toList = .ok pieces ∧
        Concept.wordsToAsk
            "(tell|say) me\\s*((?:\\S+\\s*)\x7b0,2\x7d)\\s*about ~animal_1 ~été" =
          (Pattern.conceptNames pieces).filterMap Pattern.leadingWord? ∧
        (Concept.wordsToAsk
            "(tell|say) me\\s*((?:\\S+\\s*)\x7b0,2\x7d)\\s*about ~animal_1 ~été" =
            Pattern.conceptNames pieces ↔
          ∀ name ∈ Pattern.conceptNames pieces, ∀ c ∈ name.toList,
            Text.isWordCharacter c = true) := by
  have ok : Pattern.grammar "(tell|say) me *~2 about ~animal_1 ~été" =
      .ok "(tell|say) me\\s*((?:\\S+\\s*)\x7b0,2\x7d)\\s*about ~animal_1 ~été" := by
    rfl
  have outside :
      Pattern.tildeInBrackets none "(tell|say) me *~2 about ~animal_1 ~été".toList = false := by
    rfl
  exact ⟨ok, outside, asked_words_are_concepts_iff ok outside⟩

/-- One half can stand in a name, but it is no word character. -/
theorem concept_in_fractions_is_lost :
    Pattern.read "~½".toList = .ok [.concept ['½']] ∧ Pattern.grammar "~½" = .ok "~½" ∧
      Pattern.tildeInBrackets none "~½".toList = false ∧
      Pattern.conceptNames [.concept ['½']] = ["½"] ∧ Concept.wordsToAsk "~½" = [] :=
  ⟨rfl, rfl, rfl, rfl, rfl⟩

end DialogueScript
