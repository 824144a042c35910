import DialogueScript.Proofs.CanonicalWords
import DialogueScript.Proofs.LiteralConversations
import Mathlib.Data.List.Chain

/- Pattern marks in canonical text. No pass that makes a text canonical drops a mark of the pattern
   syntax, adds one or moves one past another. What the passes replace is gone from the result, and
   its words have single spaces between them. -/
namespace DialogueScript.Text

/-- Whether a character means something in a pattern: a mark of its syntax, a sentence mark or a
digit of a count. -/
def isPatternMark (c : Char) : Bool :=
  Pattern.isSyntax c || Pattern.isPunctuation c || c.isDigit

/- What a pass does to the characters that pass a test. -/

section Filtered

variable {test : Char → Bool}

theorem filter_eq_nil {text : List Char} (none : text.all (!test ·) = true) :
    text.filter test = [] := by
  rw [List.filter_eq_nil_iff]
  intro c member
  simpa using List.all_eq_true.mp none c member

theorem filter_first (c : Char) (rest : List Char) :
    (c :: rest).filter test = [c].filter test ++ rest.filter test :=
  List.filter_append [c] rest

theorem filter_flatMap_each {spell : Char → List Char}
    (each : ∀ c, (spell c).filter test = [c].filter test) (text : List Char) :
    (text.flatMap spell).filter test = text.filter test := by
  induction text with
  | nil => rfl
  | cons c rest ih =>
    rw [List.flatMap_cons, List.filter_append, each, ih, ← filter_first]

namespace Contraction

/-- The characters that a contraction takes out of a text or puts into it. -/
def changes : Contraction → List Char
  | .whole first second phrase => first ++ second ++ phrase
  | .among _ second phrase => second ++ phrase
  | .ending dropped second phrase => dropped ++ second ++ phrase

variable {rule : Contraction}

theorem filter_expand (spared : rule.changes.filter test = []) {before after expanded : List Char}
    (expands : rule.expand? before after = some expanded) :
    expanded.filter test = before.filter test ++ after.filter test := by
  cases rule with
  | whole first second phrase =>
    simp only [changes, List.filter_append, List.append_eq_nil_iff] at spared
    simp only [expand?, Option.ite_none_right_eq_some, Option.some.injEq] at expands
    obtain ⟨⟨rfl, rfl⟩, rfl⟩ := expands
    rw [spared.2, spared.1.1, spared.1.2, List.append_nil]
  | among firsts second phrase =>
    simp only [changes, List.filter_append, List.append_eq_nil_iff] at spared
    simp only [expand?, Option.ite_none_right_eq_some, Option.some.injEq] at expands
    obtain ⟨⟨_, rfl⟩, rfl⟩ := expands
    rw [List.filter_append, spared.1, spared.2]
  | ending dropped second phrase =>
    simp only [changes, List.filter_append, List.append_eq_nil_iff] at spared
    simp only [expand?, Option.ite_none_right_eq_some, Option.some.injEq] at expands
    obtain ⟨⟨_, ⟨kept, rfl⟩, rfl⟩, rfl⟩ := expands
    rw [List.length_append, Nat.add_sub_cancel, List.take_left, List.filter_append,
      List.filter_append, spared.2, spared.1.1, spared.1.2, List.append_nil, List.append_nil]

theorem filter_applyTo (apostrophe : test '\'' = false) (spared : rule.changes.filter test = [])
    (segs : List Segment) :
    (rule.applyTo segs).filter test = (segs.flatMap Segment.toList).filter test := by
  fun_induction applyTo rule segs with
  | case1 => rfl
  | case2 c rest ih =>
    rw [filter_first, ih, List.flatMap_cons, List.filter_append, Segment.toList]
  | case3 before mark after rest phrase expands ih =>
    obtain ⟨rfl, expands⟩ := Option.ite_none_right_eq_some.mp expands
    have dropped : ['\''].filter test = [] := by simp [apostrophe]
    simp only [List.flatMap_cons, List.filter_append, Segment.toList, dropped, ih,
      filter_expand spared expands, List.nil_append, List.append_assoc]
  | case4 before mark after rest _ ih =>
    rw [List.filter_append, filter_first, ih]
    simp only [List.flatMap_cons, List.filter_append, Segment.toList]
  | case5 word rest _ ih =>
    rw [List.filter_append, ih, List.flatMap_cons, List.filter_append, Segment.toList]

end Contraction

theorem filter_spellOut (apostrophe : test '\'' = false)
    (spared : contractions.all (fun rule => rule.changes.all (!test ·)) = true)
    (text : List Char) : (spellOut text).filter test = text.filter test := by
  unfold spellOut
  refine List.foldlRecOn (motive := fun made : List Char => made.filter test = text.filter test)
    contractions _ rfl ?_
  intro made same rule member
  have plain := filter_eq_nil (List.all_eq_true.mp spared rule member)
  rw [Contraction.filter_applyTo apostrophe plain, segments_toList, same]

theorem flatten_words (text : List Char) : (words text).flatten = text.filter (!isBlank ·) := by
  rw [words, List.flatten_filter_not_isEmpty]
  induction text with
  | nil => rfl
  | cons c rest ih =>
    rw [List.splitOnP_cons_eq_if_modifyHead]
    cases blank : isBlank c with
    | true =>
      rw [if_pos rfl, List.flatten_cons, List.nil_append, ih,
        List.filter_cons_of_neg (by simp [blank])]
    | false =>
      rw [if_neg (by simp), List.filter_cons_of_pos (by simp [blank]), ← ih]
      cases parts : rest.splitOnP isBlank with
      | nil => exact absurd parts (List.splitOnP_ne_nil isBlank rest)
      | cons head tail => rfl

theorem filter_unwords (space : test ' ' = false) (ws : List (List Char)) :
    (unwords ws).filter test = ws.flatten.filter test := by
  induction ws with
  | nil => rfl
  | cons word rest ih =>
    cases rest with
    | nil => simp [unwords]
    | cons next others =>
      rw [unwords_cons_cons, List.filter_append, List.filter_cons_of_neg (by simp [space]), ih,
        ← List.filter_append]
      rfl

theorem filter_unwords_words (solid : ∀ c, isBlank c = true → test c = false) (text : List Char) :
    (unwords (words text)).filter test = text.filter test := by
  rw [filter_unwords (solid ' ' rfl), flatten_words, List.filter_filter]
  apply List.filter_congr
  intro c _
  cases passes : test c with
  | false => rfl
  | true =>
    cases blank : isBlank c with
    | false => rfl
    | true => rw [solid c blank] at passes; cases passes

end Filtered

/- Pattern marks. -/

section Marks

variable {c : Char}

theorem pattern_mark_cases (mark : isPatternMark c = true) :
    c ∈ "*()[]~|?!.,;:".toList ∨ c.isDigit = true := by
  simpa [isPatternMark, Pattern.isSyntax, Pattern.isPunctuation, or_assoc] using mark

theorem pattern_mark_caseless (mark : isPatternMark c = true) : isCaseless c.toNat = true := by
  have table :
      ("*()[]~|?!.,;:".toList.map Char.toNat ++ List.range' 48 10).all isCaseless = true := by rfl
  apply List.all_eq_true.mp table
  rcases pattern_mark_cases mark with listed | digit
  · exact List.mem_append_left _ (List.mem_map_of_mem listed)
  · exact List.mem_append_right _ (code_of_digit digit)

theorem marks_of_lowercaseChar (c : Char) :
    [lowercaseChar c].filter isPatternMark = [c].filter isPatternMark := by
  by_cases before : isPatternMark c = true
  · rw [lowercase_of_caseless (pattern_mark_caseless before)]
  · have after : ¬ isPatternMark (lowercaseChar c) = true := by
      intro mark
      rw [← caseless_of_lowercase (pattern_mark_caseless mark) rfl] at mark
      exact before mark
    simp [before, after]

theorem marks_of_lowercaseAfter (before text : List Char) :
    (lowercaseAfter before text).filter isPatternMark = text.filter isPatternMark := by
  induction text generalizing before with
  | nil => rfl
  | cons c after ih =>
    rw [lowercaseAfter, List.filter_append, ih, filter_first c]
    congr 1
    split
    · rename_i sigma
      rw [sigma]
      split <;> rfl
    · split
      · rename_i dotted
        rw [dotted]
        rfl
      · exact marks_of_lowercaseChar c

theorem blank_is_no_pattern_mark (blank : isBlank c = true) : isPatternMark c = false := by
  have solid : "*()[]~|?!.,;:".toList.all (!isBlank ·) = true := rfl
  rw [Bool.eq_false_iff]
  intro mark
  rcases pattern_mark_cases mark with listed | digit
  · exact blank_not_among solid blank listed
  · rw [digit_is_solid digit] at blank
    cases blank

end Marks

/- Replaced characters. -/

section Replaced

def typographicMarks : List Char := ['‘', '’', 'ʼ', '`', '“', '”', '–', '—']

theorem plainMark_cases (c : Char) :
    plainMark c = c ∧ c ∉ typographicMarks ∨
      plainMark c ∈ ['\'', '"', '-'] ∧ c ∈ typographicMarks := by
  simp only [plainMark, typographicMarks, List.mem_cons, List.not_mem_nil, or_false]
  split
  · exact .inr ⟨.inl rfl, by tauto⟩
  · split
    · exact .inr ⟨.inr (.inl rfl), by tauto⟩
    · split
      · exact .inr ⟨.inr (.inr rfl), by tauto⟩
      · exact .inl ⟨rfl, by tauto⟩

theorem marks_of_plainMark (c : Char) :
    [plainMark c].filter isPatternMark = [c].filter isPatternMark := by
  have plain : ['\'', '"', '-'].all (!isPatternMark ·) = true := rfl
  have typographic : typographicMarks.all (!isPatternMark ·) = true := rfl
  rcases plainMark_cases c with ⟨same, _⟩ | ⟨made, replaced⟩
  · rw [same]
  · have before := List.all_eq_true.mp typographic c replaced
    have after := List.all_eq_true.mp plain _ made
    simp only [Bool.not_eq_true'] at before after
    simp [before, after]

theorem no_typographic_mark_left (text : List Char) :
    (text.map plainMark).filter typographicMarks.contains = [] := by
  have plain : ['\'', '"', '-'].all (!typographicMarks.contains ·) = true := rfl
  apply filter_eq_nil
  simp only [List.all_map, List.all_eq_true, Function.comp_apply]
  intro c _
  rcases plainMark_cases c with ⟨same, absent⟩ | ⟨made, _⟩
  · simpa [same] using absent
  · exact List.all_eq_true.mp plain _ made

theorem ampersand_spelled (c : Char) : '&' ∉ spellAmpersand c := by
  unfold spellAmpersand
  split
  · decide
  · rename_i other
    simpa using Ne.symm other

theorem filter_ampersand {test : Char → Bool} (spared : "& and ".toList.all (!test ·) = true)
    (text : List Char) : (text.flatMap spellAmpersand).filter test = text.filter test := by
  apply filter_flatMap_each
  intro c
  unfold spellAmpersand
  split
  · rename_i is
    have both : ['&'].filter test ++ " and ".toList.filter test = [] := by
      rw [← List.filter_append]
      exact filter_eq_nil spared
    rw [List.append_eq_nil_iff] at both
    rw [is, both.1, both.2]
  · rfl

end Replaced

theorem marks_of_spelled (text : List Char) :
    (spelled text).filter isPatternMark = text.filter isPatternMark := by
  calc (spelled text).filter isPatternMark
    _ = (spellOut ((lowercase text).map plainMark)).filter isPatternMark := filter_ampersand rfl _
    _ = ((lowercase text).map plainMark).filter isPatternMark := filter_spellOut rfl rfl _
    _ = (lowercase text).filter isPatternMark := by
      rw [List.map_eq_flatMap]
      exact filter_flatMap_each marks_of_plainMark _
    _ = text.filter isPatternMark := marks_of_lowercaseAfter [] text

theorem typographic_of_spelled (text : List Char) :
    (spelled text).filter typographicMarks.contains = [] := by
  calc (spelled text).filter typographicMarks.contains
    _ = (spellOut ((lowercase text).map plainMark)).filter typographicMarks.contains :=
      filter_ampersand rfl _
    _ = ((lowercase text).map plainMark).filter typographicMarks.contains :=
      filter_spellOut rfl rfl _
    _ = [] := no_typographic_mark_left _

theorem nothing_replaced_is_left (text : List Char) :
    (spelled text).filter ('&' :: typographicMarks).contains = [] := by
  rw [List.filter_eq_nil_iff]
  intro c member
  have plain := List.filter_eq_nil_iff.mp (typographic_of_spelled text) c member
  have other : c ≠ '&' := by
    rintro rfl
    obtain ⟨d, _, there⟩ := List.mem_flatMap.mp member
    exact ampersand_spelled d there
  simpa [other] using plain

/- Single spaces. -/

section Spaced

variable {word : List Char}

structure SingleSpaced (text : List Char) : Prop where
  ends : SolidEnds text
  spaces : ∀ c ∈ text, isBlank c = true → c = ' '
  apart : text.IsChain fun c d => isBlank c = true → isBlank d = false

theorem singleSpaced_of_solid {text : List Char} (solid : ∀ c ∈ text, isBlank c = false) :
    SingleSpaced text where
  ends := solidEnds_of_solid solid
  spaces c member blank := by
    rw [solid c member] at blank
    cases blank
  apart := by
    apply List.Pairwise.isChain
    apply List.pairwise_of_forall_mem_list
    intro c _ d member _
    exact solid d member

theorem singleSpaced_before {later : List Char} (isWord : IsWord word) (follows : later ≠ [])
    (spaced : SingleSpaced later) : SingleSpaced (word ++ ' ' :: later) where
  ends := by
    rw [← List.singleton_append]
    exact solidEnds_spaced isWord follows spaced.ends
  spaces c member blank := by
    rcases List.mem_append.mp member with inside | behind
    · rw [isWord.solid c inside] at blank
      cases blank
    · rcases List.mem_cons.mp behind with rfl | behind
      · rfl
      · exact spaced.spaces c behind blank
  apart := by
    refine List.isChain_append.mpr ⟨(singleSpaced_of_solid isWord.solid).apart, ?_, ?_⟩
    · obtain ⟨c, rest, rfl⟩ := List.exists_cons_of_ne_nil follows
      exact List.isChain_cons_cons.mpr ⟨fun _ => spaced.ends.first c rfl, spaced.apart⟩
    · intro c last _ _ blank
      rw [isWord.solid c (List.mem_of_getLast? last)] at blank
      cases blank

theorem unwords_singleSpaced {ws : List (List Char)} (each : ∀ word ∈ ws, IsWord word) :
    SingleSpaced (unwords ws) := by
  induction ws with
  | nil => exact singleSpaced_of_solid (by simp [unwords])
  | cons word rest ih =>
    rw [List.forall_mem_cons] at each
    cases rest with
    | nil =>
      rw [unwords, List.intercalate_singleton]
      exact singleSpaced_of_solid each.1.solid
    | cons next others =>
      have back : words (unwords (next :: others)) = next :: others :=
        words_unwords fun word member => ⟨(each.2 word member).nonempty, (each.2 word member).solid⟩
      have follows : unwords (next :: others) ≠ [] := by
        intro nothing
        rw [nothing] at back
        cases back
      rw [unwords_cons_cons]
      exact singleSpaced_before each.1 follows (ih each.2)

end Spaced

/-- Making a text canonical leaves its pattern marks as they are. The result has no blanks but
single spaces between words, and nothing is left of what has a plain spelling. -/
theorem canonical_text_keeps_pattern_marks (text : String) :
    (canonical text).toList.filter isPatternMark = text.toList.filter isPatternMark ∧
      SingleSpaced (canonical text).toList ∧
      ∀ c ∈ '&' :: typographicMarks, c ∉ (canonical text).toList := by
  have made : (canonical text).toList = unwords (words (spelled text.toList)) := by
    rw [canonical, String.toList_ofList]
    rfl
  rw [made]
  refine ⟨?_, ?_, ?_⟩
  · rw [filter_unwords_words (fun _ => blank_is_no_pattern_mark), marks_of_spelled]
  · apply unwords_singleSpaced
    intro word isWord
    obtain ⟨nonempty, solid⟩ := word_spec isWord
    exact ⟨nonempty, fun c member => (solid c member).2⟩
  · have solid : ('&' :: typographicMarks).all (!isBlank ·) = true := rfl
    have gone := nothing_replaced_is_left text.toList
    rw [← filter_unwords_words] at gone
    · intro c replaced member
      exact List.filter_eq_nil_iff.mp gone c member (List.contains_iff_mem.mpr replaced)
    · intro c blank
      simpa using blank_not_among solid blank

-- Marks of the syntax and a digit stand right beside contractions that are typed with other marks.
set_option maxRecDepth 4000 in
theorem pattern_marks_beside_contractions :
    canonical " *I’M\t(3N`T|~x)&*2?" = "*i am (3 not|~x) and *2?" ∧
      (canonical " *I’M\t(3N`T|~x)&*2?").toList.filter isPatternMark = "*(3|~)*2?".toList ∧
      '’' ∉ (canonical " *I’M\t(3N`T|~x)&*2?").toList := by
  have kept := canonical_text_keeps_pattern_marks " *I’M\t(3N`T|~x)&*2?"
  exact ⟨by rfl, kept.1, kept.2.2 '’' (by decide)⟩

end DialogueScript.Text
