import DialogueScript.Proofs.LetterCase
import DialogueScript.Proofs.WordCounts
import DialogueScript.Text.Canonical

/- Canonical text, word by word. Each pass that makes it works on the two sides of a blank apart: a
   sigma does not look past the blank, and no contraction reaches across it. No pass uses a word up,
   so the canonical words of a text are those of its words in order. -/
namespace DialogueScript.Text

def HasSolid (text : List Char) : Prop := ∃ c ∈ text, isBlank c = false

theorem hasSolid_append {before after : List Char} :
    HasSolid (before ++ after) ↔ HasSolid before ∨ HasSolid after := by
  simp [HasSolid, or_and_right, exists_or]

theorem hasSolid_cons {c : Char} {rest : List Char} :
    HasSolid (c :: rest) ↔ isBlank c = false ∨ HasSolid rest := by
  simp [HasSolid]

theorem HasSolid.has_words {text : List Char} (solid : HasSolid text) : words text ≠ [] := by
  induction text with
  | nil => simp [HasSolid] at solid
  | cons c rest ih =>
    cases blank : isBlank c with
    | true =>
      rw [words_of_blank blank]
      exact ih ((hasSolid_cons.mp solid).resolve_left (by simp [blank]))
    | false =>
      rw [words_of_solid blank]
      exact List.cons_ne_nil _ _

/-- A pass over a text that can be done word by word. -/
structure WordByWord (pass : List Char → List Char) : Prop where
  nothing : pass [] = []
  apart : ∀ {c : Char}, isBlank c = true → ∀ before after : List Char,
    pass (before ++ c :: after) = pass before ++ c :: pass after
  leaves : ∀ {text : List Char}, HasSolid text → HasSolid (pass text)

section Passes

variable {pass next : List Char → List Char}

theorem WordByWord.then (first : WordByWord pass) (second : WordByWord next) :
    WordByWord fun text => next (pass text) where
  nothing := by rw [first.nothing, second.nothing]
  apart blank before after := by rw [first.apart blank, second.apart blank]
  leaves solid := second.leaves (first.leaves solid)

theorem WordByWord.foldl {α : Type} {step : List Char → α → List Char} {steps : List α}
    (each : ∀ x ∈ steps, WordByWord fun text => step text x) :
    WordByWord fun text => steps.foldl step text := by
  induction steps with
  | nil => exact ⟨rfl, fun _ _ _ => rfl, fun solid => solid⟩
  | cons x rest ih =>
    rw [List.forall_mem_cons] at each
    exact each.1.then (ih each.2)

theorem wordByWord_flatMap {spell : Char → List Char}
    (kept : ∀ c, isBlank c = true → spell c = [c])
    (leaves : ∀ c, isBlank c = false → HasSolid (spell c)) :
    WordByWord fun text => text.flatMap spell where
  nothing := rfl
  apart blank before after := by
    rw [List.flatMap_append, List.flatMap_cons, kept _ blank]
    rfl
  leaves := by
    rintro text ⟨c, member, solid⟩
    obtain ⟨d, spelled, left⟩ := leaves c solid
    exact ⟨d, List.mem_flatMap.mpr ⟨c, member, spelled⟩, left⟩

/-- The words that a pass makes of a text are those that it makes of its words. -/
theorem WordByWord.words (isLocal : WordByWord pass) (text : List Char) :
    Text.words (pass text) = (Text.words text).flatMap fun word => Text.words (pass word) := by
  induction size : text.length using Nat.strongRecOn generalizing text with
  | ind size ih =>
    by_cases solid : ∀ c ∈ text, isBlank c = false
    · cases text with
      | nil =>
        rw [isLocal.nothing]
        rfl
      | cons c rest =>
        have isWord : IsWord (c :: rest) := ⟨List.cons_ne_nil c rest, solid⟩
        rw [isWord.words, List.flatMap_singleton]
    -- A blank cuts the text into two shorter ones.
    · simp only [not_forall, Bool.not_eq_false] at solid
      obtain ⟨c, member, blank⟩ := solid
      obtain ⟨before, after, rfl⟩ := List.append_of_mem member
      rw [List.length_append, List.length_cons] at size
      rw [isLocal.apart blank, words_at_blank blank, words_at_blank blank, List.flatMap_append,
        ih before.length (by omega) before rfl, ih after.length (by omega) after rfl]

end Passes

/- Lowercase. -/

section Lowercase

variable {c : Char}

set_option maxRecDepth 4000 in
theorem blank_not_cased (blank : isBlank c = true) : isCased c = false :=
  blank_not_covered (by rfl) blank

set_option maxRecDepth 4000 in
theorem blank_not_ignored (blank : isBlank c = true) : isCaseIgnorable c = false :=
  blank_not_covered (by rfl) blank

theorem lowercase_blank_iff : isBlank (lowercaseChar c) = true ↔ isBlank c = true := by
  constructor
  · intro blank
    rwa [← caseless_of_lowercase (blank_caseless blank) rfl] at blank
  · intro blank
    rwa [lowercase_of_caseless (blank_caseless blank)]

theorem meetsCased_apart (blank : isBlank c = true) (before after : List Char) :
    meetsCased (before ++ c :: after) = meetsCased before := by
  induction before with
  | nil => simp [meetsCased, blank_not_ignored blank, blank_not_cased blank]
  | cons d rest ih =>
    unfold meetsCased at ih ⊢
    cases ignored : isCaseIgnorable d with
    | true => simpa [ignored] using ih
    | false => simp [ignored]

theorem endsWord_apart (blank : isBlank c = true) (before more after rest : List Char) :
    endsWord (before ++ c :: more) after = endsWord before after ∧
      endsWord before (after ++ c :: rest) = endsWord before after := by
  simp only [endsWord, meetsCased_apart blank, and_self]

theorem lowercaseAfter_context (blank : isBlank c = true) (before more text : List Char) :
    lowercaseAfter (before ++ c :: more) text = lowercaseAfter before text := by
  induction text generalizing before with
  | nil => rfl
  | cons d after ih =>
    rw [lowercaseAfter, lowercaseAfter, (endsWord_apart blank before more after []).1]
    exact congrArg _ (ih (d :: before))

theorem lowercaseAfter_apart (blank : isBlank c = true) (before first rest : List Char) :
    lowercaseAfter before (first ++ c :: rest) =
      lowercaseAfter before first ++ c :: lowercaseAfter [] rest := by
  induction first generalizing before with
  | nil =>
    have plain : c ≠ 'Σ' ∧ c ≠ 'İ' := by
      constructor
      · rintro rfl
        exact absurd blank (by decide)
      · rintro rfl
        exact absurd blank (by decide)
    have context : lowercaseAfter (c :: before) rest = lowercaseAfter [] rest :=
      lowercaseAfter_context blank [] before rest
    have kept := lowercase_of_caseless (blank_caseless blank)
    simp [lowercaseAfter, plain, context, kept]
  | cons d first ih =>
    rw [List.cons_append, lowercaseAfter, lowercaseAfter,
      (endsWord_apart blank before [] first rest).2, ih, List.append_assoc]

theorem lowercaseAfter_leaves {text : List Char} (solid : HasSolid text) (before : List Char) :
    HasSolid (lowercaseAfter before text) := by
  induction text generalizing before with
  | nil => exact solid
  | cons d rest ih =>
    rw [lowercaseAfter, hasSolid_append]
    rcases hasSolid_cons.mp solid with here | later
    · left
      split
      · split <;> exact ⟨_, List.mem_singleton_self _, by decide⟩
      · split
        · exact ⟨'i', List.mem_cons_self, by decide⟩
        · refine ⟨_, List.mem_singleton_self _, ?_⟩
          rw [Bool.eq_false_iff] at here ⊢
          exact mt lowercase_blank_iff.mp here
    · exact .inr (ih later (d :: before))

theorem lowercase_wordByWord : WordByWord lowercase where
  nothing := rfl
  apart blank before after := lowercaseAfter_apart blank [] before after
  leaves solid := lowercaseAfter_leaves solid []

end Lowercase

/- Contractions. -/

section Contractions

variable {c : Char}

theorem segments_apart (outside : isWordCharacter c = false) (before after : List Char) :
    segments (before ++ c :: after) = segments before ++ .mark c :: segments after := by
  fun_induction segments before with
  | case1 => simp [segments, outside]
  | case2 d rest inside word others cut ih =>
    rw [List.cons_append, segments, if_pos inside, ih, cut]
    rfl
  | case3 d rest inside starts ih =>
    rw [List.cons_append, segments, if_pos inside, ih]
    cases cut : segments rest with
    | nil => rfl
    | cons first others =>
      cases first with
      | run word => exact absurd cut (starts word others)
      | mark m => rfl
  | case4 d rest other ih =>
    rw [List.cons_append, segments, if_neg other, ih]
    rfl

theorem segments_toList (text : List Char) : (segments text).flatMap Segment.toList = text := by
  fun_induction segments text with
  | case1 => rfl
  | case2 d rest _ word others cut ih =>
    rw [cut] at ih
    simpa [Segment.toList] using ih
  | case3 d rest _ _ ih => simpa [Segment.toList] using ih
  | case4 d rest _ ih => simpa [Segment.toList] using ih

namespace Contraction

variable (rule : Contraction)

theorem applyTo_run_mark (other : c ≠ '\'') (word : List Char) (rest : List Segment) :
    rule.applyTo (.run word :: .mark c :: rest) = word ++ c :: rule.applyTo rest := by
  match rest with
  | [] => simp [applyTo]
  | .mark d :: more => simp [applyTo]
  | .run second :: more => rw [applyTo, if_neg other]

theorem applyTo_apart (other : c ≠ '\'') (before after : List Segment) :
    rule.applyTo (before ++ .mark c :: after) = rule.applyTo before ++ c :: rule.applyTo after := by
  fun_induction applyTo rule before with
  | case1 => rw [List.nil_append, applyTo]; rfl
  | case2 d rest ih => rw [List.cons_append, applyTo, ih]; rfl
  | case3 first mark second rest phrase expands ih =>
    simp only [List.cons_append, applyTo, expands, ih, List.append_assoc]
  | case4 first mark second rest stays ih =>
    simp only [List.cons_append] at ih ⊢
    simp only [applyTo, stays, ih, List.append_assoc, List.cons_append]
  | case5 word rest single ih =>
    match rest, single, ih with
    | [], _, _ =>
      rw [List.cons_append, List.nil_append, applyTo_run_mark rule other]
      simp [applyTo]
    | [.mark m], _, _ => simp [applyTo]
    | .mark m :: .mark n :: more, _, ih => simpa [applyTo] using ih
    | .mark m :: .run second :: more, single, _ => exact absurd rfl (single m second more)
    | .run second :: more, _, ih => simpa [applyTo] using ih

def phrase : Contraction → List Char
  | .whole _ _ phrase => phrase
  | .among _ _ phrase => phrase
  | .ending _ _ phrase => phrase

theorem expand_has_phrase {before after expanded : List Char}
    (expands : rule.expand? before after = some expanded) : rule.phrase <:+ expanded := by
  cases rule with
  | whole first second phrase =>
    simp only [expand?, Option.ite_none_right_eq_some, Option.some.injEq] at expands
    exact expands.2 ▸ List.suffix_refl _
  | among firsts second phrase =>
    simp only [expand?, Option.ite_none_right_eq_some, Option.some.injEq] at expands
    exact expands.2 ▸ List.suffix_append _ _
  | ending dropped second phrase =>
    simp only [expand?, Option.ite_none_right_eq_some, Option.some.injEq] at expands
    exact expands.2 ▸ List.suffix_append _ _

theorem applyTo_leaves {rule : Contraction} (said : HasSolid rule.phrase) {segs : List Segment}
    (solid : HasSolid (segs.flatMap Segment.toList)) : HasSolid (rule.applyTo segs) := by
  fun_induction applyTo rule segs with
  | case1 => exact solid
  | case2 d rest ih =>
    simp only [List.flatMap_cons, Segment.toList, List.singleton_append, hasSolid_cons] at solid ⊢
    exact solid.imp_right ih
  | case3 first mark second rest phrase expands ih =>
    have apostrophe : rule.expand? first second = some phrase := by
      by_cases is : mark = '\''
      · rwa [if_pos is] at expands
      · rw [if_neg is] at expands
        cases expands
    obtain ⟨c, member, left⟩ := said
    exact ⟨c, List.mem_append_left _ ((rule.expand_has_phrase apostrophe).subset member), left⟩
  | case4 first mark second rest stays ih =>
    simp only [List.flatMap_cons, Segment.toList, List.singleton_append, hasSolid_append,
      hasSolid_cons] at solid ih ⊢
    exact solid.imp_right (Or.imp_right ih)
  | case5 word rest _ ih =>
    simp only [List.flatMap_cons, Segment.toList, hasSolid_append] at solid ⊢
    exact solid.imp_right ih

theorem wordByWord {rule : Contraction} (said : HasSolid rule.phrase) :
    WordByWord fun text => rule.applyTo (segments text) where
  nothing := rfl
  apart {c} blank before after := by
    have other : c ≠ '\'' := by
      rintro rfl
      exact absurd blank (by decide)
    rw [segments_apart (blank_is_no_word_character blank), rule.applyTo_apart other]
  leaves {text} solid := applyTo_leaves said (by rwa [segments_toList])

end Contraction

theorem spellOut_wordByWord : WordByWord spellOut := by
  have table : contractions.all (fun rule => rule.phrase.any (!isBlank ·)) = true := by rfl
  refine WordByWord.foldl ?_
  intro rule member
  have said := List.all_eq_true.mp table rule member
  simp only [List.any_eq_true, Bool.not_eq_true'] at said
  exact Contraction.wordByWord said

end Contractions

/- Marks that are replaced one by one. -/

theorem blank_not_among {marks : List Char} (solid : marks.all (!isBlank ·) = true) {c : Char}
    (blank : isBlank c = true) : c ∉ marks := by
  intro member
  simpa [blank] using List.all_eq_true.mp solid c member

theorem plainMark_wordByWord : WordByWord fun text => text.map plainMark := by
  simp only [List.map_eq_flatMap]
  apply wordByWord_flatMap
  · intro c blank
    unfold plainMark
    rw [if_neg (blank_not_among rfl blank), if_neg (blank_not_among rfl blank),
      if_neg (blank_not_among rfl blank)]
  · intro c solid
    refine ⟨_, List.mem_singleton_self _, ?_⟩
    unfold plainMark
    split
    · rfl
    · split
      · rfl
      · split
        · rfl
        · exact solid

theorem ampersand_wordByWord : WordByWord fun text => text.flatMap spellAmpersand := by
  apply wordByWord_flatMap
  · intro c blank
    refine if_neg ?_
    rintro rfl
    exact absurd blank (by decide)
  · intro c solid
    unfold spellAmpersand
    split
    · exact ⟨'a', by decide, by decide⟩
    · exact ⟨c, List.mem_singleton_self c, solid⟩

def spelled (text : List Char) : List Char :=
  (spellOut ((lowercase text).map plainMark)).flatMap spellAmpersand

theorem spelled_wordByWord : WordByWord spelled := by
  have marked := lowercase_wordByWord.then plainMark_wordByWord
  have expanded := marked.then spellOut_wordByWord
  unfold spelled
  exact expanded.then ampersand_wordByWord

/- Words with single spaces between them. -/

theorem unwords_append {first second : List (List Char)} (some : first ≠ []) (more : second ≠ []) :
    unwords (first ++ second) = unwords first ++ ' ' :: unwords second := by
  induction first with
  | nil => exact absurd rfl some
  | cons word rest ih =>
    cases rest with
    | nil =>
      obtain ⟨next, others, rfl⟩ := List.exists_cons_of_ne_nil more
      rw [List.singleton_append, unwords_cons_cons]
      simp [unwords]
    | cons next others =>
      rw [List.cons_append, List.cons_append, unwords_cons_cons, ← List.cons_append,
        ih (List.cons_ne_nil next others), unwords_cons_cons, List.append_assoc, List.cons_append]

theorem unwords_flatMap {α : Type} {parts : α → List (List Char)} {xs : List α}
    (some : ∀ x ∈ xs, parts x ≠ []) :
    unwords (xs.flatMap parts) = unwords (xs.map fun x => unwords (parts x)) := by
  induction xs with
  | nil => rfl
  | cons x rest ih =>
    rw [List.forall_mem_cons] at some
    cases rest with
    | nil => simp [unwords]
    | cons y others =>
      have more : (y :: others).flatMap parts ≠ [] := by
        simp [some.2 y List.mem_cons_self]
      rw [List.flatMap_cons, unwords_append some.1 more, ih some.2, List.map_cons, List.map_cons,
        List.map_cons, unwords_cons_cons]

theorem canonicalChars_by_word (text : List Char) :
    canonicalChars text = unwords ((words text).map canonicalChars) := by
  have leaves : ∀ word ∈ words text, words (spelled word) ≠ [] := by
    intro word isWord
    obtain ⟨nonempty, solid⟩ := word_spec isWord
    obtain ⟨c, rest, rfl⟩ := List.exists_cons_of_ne_nil nonempty
    have first := (solid c List.mem_cons_self).2
    exact (spelled_wordByWord.leaves ⟨c, List.mem_cons_self, first⟩).has_words
  calc canonicalChars text
    _ = unwords (words (spelled text)) := rfl
    _ = unwords ((words text).flatMap fun word => words (spelled word)) := by
      rw [spelled_wordByWord.words]
    _ = unwords ((words text).map canonicalChars) := unwords_flatMap leaves

theorem canonicalChars_apart {first gap second : List Char} (solid : HasSolid first)
    (isGap : IsGap gap) (follows : HasSolid second) :
    canonicalChars (first ++ (gap ++ second)) =
      canonicalChars first ++ ' ' :: canonicalChars second := by
  have cut : words (first ++ (gap ++ second)) = words first ++ words second := by
    obtain ⟨nonempty, blank⟩ := isGap
    obtain ⟨c, rest, rfl⟩ := List.exists_cons_of_ne_nil nonempty
    rw [List.forall_mem_cons] at blank
    rw [List.cons_append, words_at_blank blank.1, words_behind_blanks blank.2]
  have some : (words first).map canonicalChars ≠ [] := by simpa using solid.has_words
  have more : (words second).map canonicalChars ≠ [] := by simpa using follows.has_words
  rw [canonicalChars_by_word, cut, List.map_append, unwords_append some more,
    ← canonicalChars_by_word, ← canonicalChars_by_word]

/-- The canonical form of a text is made word by word. A contraction does not depend on the words
around it. -/
theorem canonical_text_is_made_word_by_word :
    (∀ text : String, canonical text =
      " ".intercalate ((words text.toList).map fun word => canonical (String.ofList word))) ∧
    ∀ first gap second : String, HasSolid first.toList → IsGap gap.toList →
      HasSolid second.toList →
      canonical (first ++ gap ++ second) = canonical first ++ " " ++ canonical second := by
  have made (text : String) : (canonical text).toList = canonicalChars text.toList := by
    rw [canonical, String.toList_ofList]
  constructor
  · intro text
    apply String.ext
    simp only [String.toList_intercalate, List.map_map, Function.comp_def, made,
      String.toList_ofList]
    exact canonicalChars_by_word text.toList
  · intro first gap second solid isGap follows
    have space : " ".toList = [' '] := rfl
    apply String.ext
    simp only [made, String.toList_append, List.append_assoc, space, List.singleton_append]
    exact canonicalChars_apart solid isGap follows

-- A sigma at the end of a word, and contractions on both sides of the gap.
set_option maxRecDepth 4000 in
theorem canonical_words_around_a_gap :
    HasSolid "I'm ΟΣ".toList ∧ IsGap "\t\u00a0".toList ∧ HasSolid "Σ & can’t".toList ∧
      canonical ("I'm ΟΣ" ++ "\t\u00a0" ++ "Σ & can’t") =
        canonical "I'm ΟΣ" ++ " " ++ canonical "Σ & can’t" ∧
      canonical ("I'm ΟΣ" ++ "\t\u00a0" ++ "Σ & can’t") = "i am ος σ and cannot" := by
  have solid : HasSolid "I'm ΟΣ".toList := ⟨'I', by decide, by decide⟩
  have blank : "\t\u00a0".toList.all isBlank = true := rfl
  have isGap : IsGap "\t\u00a0".toList := ⟨by decide, List.all_eq_true.mp blank⟩
  have follows : HasSolid "Σ & can’t".toList := ⟨'Σ', by decide, by decide⟩
  exact ⟨solid, isGap, follows,
    canonical_text_is_made_word_by_word.2 _ _ _ solid isGap follows, by rfl⟩

end DialogueScript.Text
