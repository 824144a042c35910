import DialogueScript.Proofs.Runs
import DialogueScript.Proofs.Tables
import DialogueScript.Proofs.TextCuts
import DialogueScript.Script.Header
import Mathlib.Tactic.MkIffOfInductiveProp

/- Headers of topics, written and read. What a header says can be written down again, and what is
   written is read as it was meant: the brackets around flags and keywords do not occur inside. -/
namespace DialogueScript.Script
open Text

@[mk_iff]
structure FitsLine (text : List Char) : Prop where
  nonempty : text ≠ []
  trimmed : trim text = text
  one_line : '\n' ∉ text

@[mk_iff]
structure FitsPart (text : List Char) : Prop where
  trimmed : trim text = text
  no_comma : ',' ∉ text
  no_brace : '}' ∉ text
  one_line : '\n' ∉ text

@[mk_iff]
structure FitsFlag (flag : String × String) : Prop where
  name : FitsPart flag.1.toList
  value : FitsPart flag.2.toList
  no_equals : '=' ∉ flag.1.toList

@[mk_iff]
structure FitsKeyword (keyword : List Char) : Prop where
  nonempty : keyword ≠ []
  solid : ∀ c ∈ keyword, isBlank c = false
  no_bracket : ')' ∉ keyword

@[mk_iff]
structure FitsHeader (topic : Topic) : Prop where
  named : topic.name.toList ≠ []
  name : ∀ c ∈ topic.name.toList, isTopicNameCharacter c = true
  flags : ∀ flag ∈ topic.flags.toList, FitsFlag flag
  keywords : ∀ keyword ∈ topic.keywords, FitsKeyword keyword.toList
  filter : ∀ filter ∈ topic.filter, FitsLine filter.toList

instance (text : List Char) : Decidable (FitsLine text) :=
  decidable_of_iff _ (fitsLine_iff text).symm

instance (text : List Char) : Decidable (FitsPart text) :=
  decidable_of_iff _ (fitsPart_iff text).symm

instance (flag : String × String) : Decidable (FitsFlag flag) :=
  decidable_of_iff _ (fitsFlag_iff flag).symm

-- Characters are tested one by one along the text, not by going through all characters.
instance (keyword : List Char) : Decidable (FitsKeyword keyword) :=
  haveI := List.decidableBAll (fun c => isBlank c = false) keyword
  decidable_of_iff _ (fitsKeyword_iff keyword).symm

instance (topic : Topic) : Decidable (FitsHeader topic) :=
  haveI := List.decidableBAll (fun c => isTopicNameCharacter c = true) topic.name.toList
  decidable_of_iff _ (fitsHeader_iff topic).symm

def writeFlag (flag : String × String) : List Char := flag.1.toList ++ '=' :: flag.2.toList

def writeFlags (flags : Flags) : List Char :=
  if flags.isEmpty then []
  else ' ' :: '{' :: ([',', ' '].intercalate (flags.toList.map writeFlag) ++ ['}'])

def writeKeywords (keywords : List String) : List Char :=
  if keywords.isEmpty then [] else ' ' :: '(' :: (unwords (keywords.map String.toList) ++ [')'])

def writeFilter : Option String → List Char
  | none => []
  | some filter => ' ' :: '^' :: filter.toList

def writeTail (topic : Topic) : List Char :=
  writeFlags topic.flags ++ (writeKeywords topic.keywords ++ writeFilter topic.filter)

def writeHeader (topic : Topic) : List Char :=
  ['t', 'o', 'p', 'i', 'c', ' '] ++ (topic.name.toList ++ writeTail topic)

/-! What the parts of the reader take. -/

theorem cutAt_eq_some_iff {c : Char} {text body after : List Char} :
    cutAt? c text = some (body, after) ↔ c ∉ body ∧ text = body ++ c :: after := by
  constructor
  · intro cut
    have whole := @List.takeWhile_append_dropWhile _ (· != c) text
    have stop := List.head?_dropWhile_not (· != c) text
    unfold cutAt? at cut
    cases rest : text.dropWhile (· != c) with
    | nil => simp [rest] at cut
    | cons d tail =>
      simp only [rest, Option.some.injEq, Prod.mk.injEq] at cut
      obtain ⟨rfl, rfl⟩ := cut
      rw [rest] at whole stop
      obtain rfl : d = c := by simpa using stop
      refine ⟨?_, whole.symm⟩
      intro member
      simpa using List.mem_takeWhile_imp member
  · rintro ⟨absent, rfl⟩
    obtain ⟨before, behind⟩ := cut_at_mark absent _
    unfold cutAt?
    rw [before, behind]

theorem cutAt_eq_none_iff {c : Char} {text : List Char} : cutAt? c text = none ↔ c ∉ text := by
  constructor
  · intro uncut member
    obtain ⟨body, after, whole, absent⟩ := List.eq_append_cons_of_mem member
    rw [cutAt_eq_some_iff.mpr ⟨absent, whole⟩] at uncut
    cases uncut
  · intro absent
    cases cut : cutAt? c text with
    | none => rfl
    | some parts =>
      obtain ⟨_, whole⟩ := cutAt_eq_some_iff.mp cut
      exact absurd (by simp [whole]) absent

theorem readEnclosed_eq_some {bracket close : Char} {text after : List Char}
    {body : Option (List Char)} (read : readEnclosed? bracket close text = some (body, after)) :
    after <:+ text ∧ ∀ inside ∈ body, close ∉ inside ∧ inside ⊆ text := by
  unfold readEnclosed? at read
  split at read
  · rename_i c rest start
    have suffix : c :: rest <:+ text := start ▸ trimStart_suffix text
    split at read
    · obtain ⟨⟨inside, tail⟩, cut, same⟩ := Option.map_eq_some_iff.mp read
      cases same
      obtain ⟨absent, rfl⟩ := cutAt_eq_some_iff.mp cut
      refine ⟨?_, ?_⟩
      · refine List.IsSuffix.trans ⟨c :: inside ++ [close], ?_⟩ suffix
        simp
      · intro body same
        cases same
        refine ⟨absent, ?_⟩
        intro d member
        exact suffix.subset (by simp [member])
    · cases read
      exact ⟨List.suffix_rfl, by simp⟩
  · cases read
    exact ⟨List.suffix_rfl, by simp⟩

theorem readEnclosed_written {bracket close : Char} {body : List Char}
    (solid : isBlank bracket = false) (inside : close ∉ body) (after : List Char) :
    readEnclosed? bracket close (' ' :: bracket :: (body ++ close :: after)) =
      some (some body, after) := by
  have start : trimStart (' ' :: bracket :: (body ++ close :: after)) =
      bracket :: (body ++ close :: after) := by
    change trimStart (bracket :: (body ++ close :: after)) = _
    exact trimStart_of_solid (by simpa using solid)
  have cut : cutAt? close (body ++ close :: after) = some (body, after) :=
    cutAt_eq_some_iff.mpr ⟨inside, rfl⟩
  unfold readEnclosed?
  simp only [start, ↓reduceIte, cut, Option.map_some]

theorem readEnclosed_absent {bracket close : Char} {text : List Char}
    (other : ∀ c ∈ (trimStart text).head?, c ≠ bracket) :
    readEnclosed? bracket close text = some (none, text) := by
  unfold readEnclosed?
  split
  · rename_i c rest start
    rw [start] at other
    rw [if_neg (other c rfl)]
  · rfl

theorem readFilter_eq_some {text : List Char} {filter : Option (List Char)}
    (solid : ∀ c ∈ text.getLast?, isBlank c = false) (one_line : '\n' ∉ text)
    (read : readFilter? text = some filter) : ∀ body ∈ filter, FitsLine body := by
  unfold readFilter? at read
  split at read
  · cases read
    simp
  · split at read
    · rename_i body start
      have suffix : '^' :: body <:+ text := start ▸ trimStart_suffix text
      have tail : body <:+ text := (List.suffix_cons '^' body).trans suffix
      split at read
      · cases read
      · rename_i nonempty
        cases read
        intro inside same
        cases same
        have ends : body ≠ [] := by simpa using nonempty
        have last := solid_of_suffix tail solid _ (List.getLast?_eq_some_getLast ends)
        refine ⟨trim_ne_nil (List.getLast_mem ends) last, trim_trim body, ?_⟩
        intro feed
        exact one_line (tail.subset (trim_subset body feed))
    · cases read

theorem readFilter_written {filter : List Char} (fits : FitsLine filter) :
    readFilter? (' ' :: '^' :: filter) = some (some filter) := by
  unfold readFilter?
  have start : trimStart (' ' :: '^' :: filter) = '^' :: filter := rfl
  simp only [start, fits.nonempty, fits.trimmed, List.isEmpty_iff, ↓reduceIte]

/-! Flags. A part between commas is trimmed before it is read, and a written one is trimmed. -/

theorem fitsPart_trim {text whole : List Char} (within : text ⊆ whole) (no_comma : ',' ∉ whole)
    (no_brace : '}' ∉ whole) (one_line : '\n' ∉ whole) : FitsPart (trim text) := by
  have inside : trim text ⊆ whole := List.Subset.trans (trim_subset text) within
  refine ⟨trim_trim text, ?_, ?_, ?_⟩
  · exact fun comma => no_comma (inside comma)
  · exact fun brace => no_brace (inside brace)
  · exact fun feed => one_line (inside feed)

theorem readFlag_fits {part : List Char} (fits : FitsPart part) : FitsFlag (readFlag part) := by
  unfold readFlag
  cases cut : cutAt? '=' part with
  | none =>
    refine ⟨?_, ?_, ?_⟩
    · simpa using fits
    · simpa using fits
    · simpa using cutAt_eq_none_iff.mp cut
  | some parts =>
    obtain ⟨name, value⟩ := parts
    obtain ⟨absent, rfl⟩ := cutAt_eq_some_iff.mp cut
    have before : name ⊆ name ++ '=' :: value := List.subset_append_left _ _
    have after : value ⊆ name ++ '=' :: value := by simp
    refine ⟨?_, ?_, ?_⟩
    · simpa using fitsPart_trim before fits.no_comma fits.no_brace fits.one_line
    · simpa using fitsPart_trim after fits.no_comma fits.no_brace fits.one_line
    · rw [String.toList_ofList]
      exact fun equals => absent (trim_subset name equals)

theorem lookup_filled {parts : List (List Char)} {table : Flags} {key value : String}
    (found : (parts.foldl (fun flags part => flags.insert (readFlag part).1 (readFlag part).2)
      table)[key]? = some value) :
    table[key]? = some value ∨ ∃ part ∈ parts, readFlag part = (key, value) := by
  induction parts generalizing table with
  | nil => exact .inl found
  | cons part rest ih =>
    rcases ih found with before | ⟨later, member, same⟩
    · rw [lookup_insert] at before
      split at before
      · rename_i here
        refine .inr ⟨part, List.mem_cons_self, ?_⟩
        rw [← here, ← Option.some.inj before]
      · exact .inl before
    · exact .inr ⟨later, List.mem_cons_of_mem part member, same⟩

theorem readFlags_fits {body : List Char} (no_brace : '}' ∉ body) (one_line : '\n' ∉ body) :
    ∀ flag ∈ (readFlags body).toList, FitsFlag flag := by
  rintro ⟨key, value⟩ listed
  have found := Std.ExtTreeMap.mem_toList_iff_getElem?_eq_some.mp listed
  unfold readFlags at found
  rcases lookup_filled found with nothing | ⟨part, member, same⟩
  · simp at nothing
  · obtain ⟨piece, isPiece, rfl⟩ := List.mem_map.mp (List.mem_filter.mp member).1
    rw [List.splitOn_eq_splitOnP] at isPiece
    have inBody : piece ⊆ body := fun c inside => (split_part isPiece c inside).1
    have no_comma : ',' ∉ piece := by
      intro comma
      exact absurd (split_part isPiece _ comma).2 (by decide)
    rw [← same]
    refine readFlag_fits (fitsPart_trim (List.Subset.refl piece) no_comma ?_ ?_)
    · exact fun brace => no_brace (inBody brace)
    · exact fun feed => one_line (inBody feed)

theorem writeFlag_fits {flag : String × String} (fits : FitsFlag flag) :
    FitsPart (writeFlag flag) := by
  have name := trim_eq_self_iff.mp fits.name.trimmed
  have value := trim_eq_self_iff.mp fits.value.trimmed
  have equals : SolidEnds ['='] := trim_eq_self_iff.mp rfl
  refine ⟨trim_eq_self_iff.mpr (name.append (equals.append value)), ?_, ?_, ?_⟩
  · simp [writeFlag, fits.name.no_comma, fits.value.no_comma]
  · simp [writeFlag, fits.name.no_brace, fits.value.no_brace]
  · simp [writeFlag, fits.name.one_line, fits.value.one_line]

theorem readFlag_written {flag : String × String} (fits : FitsFlag flag) :
    readFlag (writeFlag flag) = flag := by
  have cut : cutAt? '=' (writeFlag flag) = some (flag.1.toList, flag.2.toList) :=
    cutAt_eq_some_iff.mpr ⟨fits.no_equals, rfl⟩
  unfold readFlag
  simp only [cut, fits.name.trimmed, fits.value.trimmed, String.ofList_toList]

theorem parts_between_commas {parts : List (List Char)} (nonempty : parts ≠ [])
    (fits : ∀ part ∈ parts, FitsPart part) :
    (([',', ' '].intercalate parts).splitOn ',').map trim = parts := by
  induction parts with
  | nil => exact absurd rfl nonempty
  | cons part rest ih =>
    simp only [List.mem_cons, forall_eq_or_imp] at fits
    obtain ⟨here, later⟩ := fits
    cases rest with
    | nil =>
      rw [List.intercalate_singleton, List.splitOn_eq_singleton here.no_comma]
      simp [here.trimmed]
    | cons next others =>
      -- The space after a comma goes to the next part, which is trimmed.
      have spaced : ∀ text : List Char,
          ((' ' :: text).splitOn ',').map trim = (text.splitOn ',').map trim := by
        intro text
        rw [List.splitOn_cons_eq_if_modifyHead]
        cases split : text.splitOn ',' with
        | nil => exact absurd split (List.splitOn_ne_nil _ _)
        | cons head tail => rfl
      have first : [',', ' '].intercalate (part :: next :: others) =
          part ++ ',' :: ' ' :: [',', ' '].intercalate (next :: others) := by
        simp [List.intercalate_cons_cons]
      rw [first, List.splitOn_append_cons_self_of_not_mem here.no_comma, List.map_cons, spaced,
        here.trimmed, ih (by simp) later]

theorem readFlags_written {flags : Flags} (filled : flags.isEmpty = false)
    (each : ∀ flag ∈ flags.toList, FitsFlag flag) :
    readFlags ([',', ' '].intercalate (flags.toList.map writeFlag)) = flags := by
  have parts : (([',', ' '].intercalate (flags.toList.map writeFlag)).splitOn ',').map trim =
      flags.toList.map writeFlag := by
    refine parts_between_commas ?_ ?_
    · simpa using filled
    · rw [List.forall_mem_map]
      intro flag member
      exact writeFlag_fits (each flag member)
  unfold readFlags
  simp only [parts]
  have nonempty : ∀ part ∈ flags.toList.map writeFlag, (!part.isEmpty) = true := by
    rw [List.forall_mem_map]
    simp [writeFlag]
  rw [List.filter_eq_self.mpr nonempty, List.foldl_map]
  calc flags.toList.foldl _ ∅
    _ = flags.toList.foldl (fun table flag => table.insert flag.1 flag.2) ∅ := by
      refine List.foldl_ext _ _ _ ?_
      intro table flag member
      rw [readFlag_written (each flag member)]
    _ = flags := table_of_entries flags

theorem afterTopicWord_suffix {header text : List Char}
    (read : afterTopicWord? header = some text) : text <:+ header := by
  unfold afterTopicWord? at read
  split at read
  · rename_i c rest
    split at read
    · cases read
      exact (trimStart_suffix rest).trans ⟨['t', 'o', 'p', 'i', 'c', c], rfl⟩
    · cases read
  · cases read

theorem readHeader_eq_some_iff {header : List Char} {topic : Topic} :
    readHeader? header = some topic ↔
      ∃ text flags rest keywords last filter, afterTopicWord? header = some text ∧
        text.takeWhile isTopicNameCharacter ≠ [] ∧
        readEnclosed? '{' '}' (text.dropWhile isTopicNameCharacter) = some (flags, rest) ∧
        readEnclosed? '(' ')' rest = some (keywords, last) ∧ readFilter? last = some filter ∧
        topic = {
          name := String.ofList (text.takeWhile isTopicNameCharacter)
          flags := (flags.map readFlags).getD ∅
          keywords := (words (keywords.getD [])).map String.ofList
          filter := filter.map String.ofList } := by
  unfold readHeader?
  simp only [Option.bind_eq_bind, Option.bind_eq_some_iff]
  constructor
  · rintro ⟨text, word, read⟩
    split at read
    · cases read
    · rename_i named
      simp only [Option.bind_eq_some_iff, Prod.exists, pure, Option.some.injEq] at read
      obtain ⟨flags, rest, braces, keywords, last, brackets, filter, caret, rfl⟩ := read
      exact ⟨text, flags, rest, keywords, last, filter, word, by simpa using named, braces,
        brackets, caret, rfl⟩
  · rintro ⟨text, flags, rest, keywords, last, filter, word, named, braces, brackets, caret, rfl⟩
    refine ⟨text, word, ?_⟩
    simp only [List.isEmpty_iff, named, ↓reduceIte, braces, brackets, caret, Option.bind_some]
    rfl

/-! The tail of a header, behind the name: parts that start with a space, or are left out. -/

structure FitsTail (text : List Char) : Prop where
  starts : ∀ c ∈ text.head?, c = ' '
  ends : ∀ c ∈ text.getLast?, isBlank c = false
  one_line : '\n' ∉ text

theorem FitsTail.append {before after : List Char} (left : FitsTail before)
    (right : FitsTail after) : FitsTail (before ++ after) := by
  refine ⟨?_, ?_, ?_⟩
  · cases before with
    | nil => exact right.starts
    | cons c rest => exact left.starts
  · rw [List.getLast?_append]
    exact solid_or right.ends left.ends
  · rw [List.mem_append, not_or]
    exact ⟨left.one_line, right.one_line⟩

theorem FitsTail.nil : FitsTail [] := ⟨by simp, by simp, by simp⟩

theorem FitsTail.enclosed {bracket close : Char} {body : List Char}
    (opens : isBlank bracket = false) (closes : isBlank close = false) (one_line : '\n' ∉ body) :
    FitsTail (' ' :: bracket :: (body ++ [close])) := by
  have feed : ∀ c : Char, isBlank c = false → '\n' ≠ c := by
    rintro c solid rfl
    exact absurd solid (by decide)
  refine ⟨by simp, ?_, ?_⟩
  · rw [← List.cons_append, ← List.cons_append, List.getLast?_concat]
    simpa using closes
  · simp [one_line, feed bracket opens, feed close closes]

theorem FitsTail.behind_name {name tail : List Char} (fits : FitsTail tail)
    (named : ∀ c ∈ name, isTopicNameCharacter c = true) :
    (name ++ tail).takeWhile isTopicNameCharacter = name ∧
      (name ++ tail).dropWhile isTopicNameCharacter = tail := by
  refine cut_at_run named ?_
  intro c first
  rw [fits.starts c first]
  decide

section Written

variable {flags : Flags} {keywords : List String} {filter : Option String} {topic : Topic}

theorem writeFlags_fits (fits : ∀ flag ∈ flags.toList, FitsFlag flag) :
    FitsTail (writeFlags flags) := by
  unfold writeFlags
  split
  · exact .nil
  · refine .enclosed (by decide) (by decide) (not_mem_intercalate (by decide) ?_)
    rw [List.forall_mem_map]
    intro flag member
    exact (writeFlag_fits (fits flag member)).one_line

theorem writeFlags_read (fits : ∀ flag ∈ flags.toList, FitsFlag flag)
    {after : List Char} (other : ∀ c ∈ (trimStart after).head?, c ≠ '{') :
    ∃ body, readEnclosed? '{' '}' (writeFlags flags ++ after) = some (body, after) ∧
      (body.map readFlags).getD ∅ = flags := by
  unfold writeFlags
  split
  · rename_i nothing
    refine ⟨none, readEnclosed_absent other, ?_⟩
    exact (Std.ExtTreeMap.isEmpty_iff.mp nothing).symm
  · rename_i filled
    have closed : '}' ∉ [',', ' '].intercalate (flags.toList.map writeFlag) := by
      refine not_mem_intercalate (by decide) ?_
      rw [List.forall_mem_map]
      intro flag member
      exact (writeFlag_fits (fits flag member)).no_brace
    refine ⟨some _, ?_, readFlags_written (by simpa using filled) fits⟩
    simpa using readEnclosed_written (by decide) closed after

theorem writeKeywords_fits (fits : ∀ keyword ∈ keywords, FitsKeyword keyword.toList) :
    FitsTail (writeKeywords keywords) := by
  unfold writeKeywords
  split
  · exact .nil
  · refine .enclosed (by decide) (by decide) (not_mem_intercalate (by decide) ?_)
    rw [List.forall_mem_map]
    intro keyword member feed
    exact absurd ((fits keyword member).solid _ feed) (by decide)

theorem writeKeywords_read (fits : ∀ keyword ∈ keywords, FitsKeyword keyword.toList)
    {after : List Char} (other : ∀ c ∈ (trimStart after).head?, c ≠ '(') :
    ∃ body, readEnclosed? '(' ')' (writeKeywords keywords ++ after) = some (body, after) ∧
      (words (body.getD [])).map String.ofList = keywords := by
  unfold writeKeywords
  split
  · rename_i nothing
    refine ⟨none, readEnclosed_absent other, ?_⟩
    exact (List.isEmpty_iff.mp nothing).symm
  · have closed : ')' ∉ unwords (keywords.map String.toList) := by
      refine not_mem_intercalate (by decide) ?_
      rw [List.forall_mem_map]
      intro keyword member
      exact (fits keyword member).no_bracket
    refine ⟨some (unwords (keywords.map String.toList)), ?_, ?_⟩
    · simpa using readEnclosed_written (by decide) closed after
    · rw [Option.getD_some, words_unwords]
      · simp
      · rw [List.forall_mem_map]
        intro keyword member
        exact ⟨(fits keyword member).nonempty, (fits keyword member).solid⟩

theorem writeFilter_fits (fits : ∀ text ∈ filter, FitsLine text.toList) :
    FitsTail (writeFilter filter) := by
  cases filter with
  | none => exact .nil
  | some text =>
    have line := fits text rfl
    refine ⟨by simp [writeFilter], ?_, ?_⟩
    · change ∀ c ∈ ([' ', '^'] ++ text.toList).getLast?, isBlank c = false
      rw [List.getLast?_append]
      exact solid_or (trim_eq_self_iff.mp line.trimmed).last (by rintro c ⟨⟩; rfl)
    · simp [writeFilter, line.one_line]

theorem writeFilter_read (fits : ∀ text ∈ filter, FitsLine text.toList) :
    readFilter? (writeFilter filter) = some (filter.map String.toList) := by
  cases filter with
  | none => rfl
  | some text => exact readFilter_written (fits text rfl)

-- What may follow the flags opens with a bracket or a caret, so no part is taken for another.
theorem trimmed_filter_head (filter : Option String) :
    ∀ c ∈ (trimStart (writeFilter filter)).head?, c = '^' := by
  cases filter with
  | none => simp [writeFilter, trimStart]
  | some text =>
    intro c head
    exact (Option.some.inj head).symm

theorem trimmed_keywords_head (keywords : List String) (filter : Option String) :
    ∀ c ∈ (trimStart (writeKeywords keywords ++ writeFilter filter)).head?, c = '(' ∨ c = '^' := by
  unfold writeKeywords
  split
  · intro c head
    exact .inr (trimmed_filter_head filter c head)
  · intro c head
    exact .inl (Option.some.inj head).symm

theorem name_character_is_solid {c : Char} (named : isTopicNameCharacter c = true) :
    isBlank c = false := by
  by_contra blank
  have blank : isBlank c = true := by simpa using blank
  simp only [isTopicNameCharacter, blank_is_no_word_character blank, Bool.false_or, Bool.or_eq_true,
    beq_iff_eq] at named
  rcases named with rfl | rfl <;> revert blank <;> decide

theorem writeTail_fits (fits : FitsHeader topic) : FitsTail (writeTail topic) :=
  (writeFlags_fits fits.flags).append
    ((writeKeywords_fits fits.keywords).append (writeFilter_fits fits.filter))

theorem writeHeader_fits (fits : FitsHeader topic) : FitsLine (writeHeader topic) := by
  have tail := writeTail_fits fits
  have nonempty : topic.name.toList ++ writeTail topic ≠ [] := by simp [fits.named]
  have solid : ∀ c ∈ topic.name.toList.getLast?, isBlank c = false := by
    intro c last
    exact name_character_is_solid (fits.name c (List.mem_of_getLast? last))
  have feed : '\n' ∉ topic.name.toList := by
    intro feed
    exact absurd (fits.name _ feed) (by decide)
  refine ⟨by simp [writeHeader], trim_eq_self_iff.mpr ⟨?_, ?_⟩, ?_⟩
  · simp [writeHeader]
    decide
  · unfold writeHeader
    rw [List.getLast?_append_of_ne_nil _ nonempty, List.getLast?_append]
    exact solid_or tail.ends solid
  · simp [writeHeader, feed, tail.one_line]

theorem readHeader_written (fits : FitsHeader topic) :
    readHeader? (writeHeader topic) = some { topic with gambits := [] } := by
  obtain ⟨taken, left⟩ := (writeTail_fits fits).behind_name fits.name
  have word :
      afterTopicWord? (writeHeader topic) = some (topic.name.toList ++ writeTail topic) := by
    change some (trimStart (topic.name.toList ++ writeTail topic)) = _
    rw [trimStart_of_solid]
    intro c head
    rw [List.head?_append_of_ne_nil _ fits.named] at head
    exact name_character_is_solid (fits.name c (List.mem_of_head? head))
  have noBrace : ∀ c ∈ (trimStart (writeKeywords topic.keywords ++ writeFilter topic.filter)).head?,
      c ≠ '{' := by
    intro c head
    rcases trimmed_keywords_head _ _ c head with rfl | rfl <;> decide
  have noBracket : ∀ c ∈ (trimStart (writeFilter topic.filter)).head?, c ≠ '(' := by
    intro c head
    rw [trimmed_filter_head _ c head]
    decide
  obtain ⟨flags, readFlags, sameFlags⟩ := writeFlags_read fits.flags noBrace
  obtain ⟨keywords, readKeywords, sameKeywords⟩ := writeKeywords_read fits.keywords noBracket
  refine readHeader_eq_some_iff.mpr ⟨_, flags, _, keywords, _, _, word, ?_, ?_, readKeywords,
    writeFilter_read fits.filter, ?_⟩
  · rw [taken]
    exact fits.named
  · rw [left]
    exact readFlags
  · rw [taken, sameFlags, sameKeywords]
    simp

theorem readHeader_fits {header : List Char}
    (solid : ∀ c ∈ header.getLast?, isBlank c = false) (one_line : '\n' ∉ header)
    (read : readHeader? header = some topic) : FitsHeader topic ∧ topic.gambits = [] := by
  obtain ⟨text, flags, rest, keywords, last, filter, word, named, braces, brackets, caret, rfl⟩ :=
    readHeader_eq_some_iff.mp read
  have behind : text.dropWhile isTopicNameCharacter <:+ header :=
    (List.dropWhile_suffix _).trans (afterTopicWord_suffix word)
  obtain ⟨afterFlags, insideFlags⟩ := readEnclosed_eq_some braces
  obtain ⟨afterKeywords, insideKeywords⟩ := readEnclosed_eq_some brackets
  have lastPart : last <:+ header := (afterKeywords.trans afterFlags).trans behind
  refine ⟨⟨?_, ?_, ?_, ?_, ?_⟩, rfl⟩
  · simpa using named
  · rw [String.toList_ofList]
    intro c member
    exact List.mem_takeWhile_imp member
  · cases flags with
    | none => simp
    | some body =>
      obtain ⟨closed, within⟩ := insideFlags body rfl
      refine readFlags_fits closed ?_
      intro feed
      exact one_line (behind.subset (within feed))
  · rw [List.forall_mem_map]
    intro word member
    obtain ⟨nonempty, each⟩ := word_spec member
    rw [String.toList_ofList]
    refine ⟨nonempty, fun c inside => (each c inside).2, ?_⟩
    intro bracket
    cases keywords with
    | none => exact absurd (each _ bracket).1 (by simp)
    | some body => exact (insideKeywords body rfl).1 (each _ bracket).1
  · have line := readFilter_eq_some (solid_of_suffix lastPart solid)
      (fun feed => one_line (lastPart.subset feed)) caret
    intro text same
    obtain ⟨body, found, rfl⟩ := Option.map_eq_some_iff.mp same
    rw [String.toList_ofList]
    exact line body found

end Written

end DialogueScript.Script
