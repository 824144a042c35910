import DialogueScript.Proofs.ExpandedGroups
import DialogueScript.Proofs.SharedExpander
import DialogueScript.Proofs.TextCuts

/- Replacing concepts as one substitution. A pattern is cut at its concepts, each of them with the
   blanks around it, and nothing between the cuts is a concept. What is put in for a concept depends
   on the words for it alone, and everything between the cuts stays. -/
namespace DialogueScript.Concept

def HasNoConcept (text : List Char) : Prop :=
  ∀ before c after, text = before ++ '~' :: c :: after → Text.isWordCharacter c = false

/-- A text cut at its concepts: a segment without one, and then each concept with the segment that
follows it. The blanks in front of a concept are its own, unless the one before has taken them. -/
inductive Cuts : (text segment : List Char) → List (Occurrence × List Char) → Prop where
  | last {segment : List Char} (plain : HasNoConcept segment) : Cuts segment segment []
  | next {segment rest following : List Char} {occurrence : Occurrence}
      {later : List (Occurrence × List Char)} (plain : HasNoConcept segment)
      (solid : ∀ c ∈ segment.getLast?, Text.isBlank c = false) (stands : occurrence.Stands rest)
      (cut : Cuts rest following later) :
      Cuts (segment ++ occurrence.toList ++ rest) segment ((occurrence, following) :: later)

def fill (put : Occurrence → List Char) (segment : List Char)
    (later : List (Occurrence × List Char)) : List Char :=
  segment ++ later.flatMap fun entry => put entry.1 ++ entry.2

theorem Cuts.whole {text segment : List Char} {later : List (Occurrence × List Char)}
    (cuts : Cuts text segment later) : text = fill Occurrence.toList segment later := by
  induction cuts with
  | last plain => simp [fill]
  | next plain solid stands cut ih =>
    rw [ih]
    simp [fill]

theorem Cuts.plain {text segment : List Char} {later : List (Occurrence × List Char)}
    (cuts : Cuts text segment later) : HasNoConcept segment := by
  cases cuts with
  | last plain => exact plain
  | next plain solid stands cut => exact plain

theorem HasNoConcept.cons {c : Char} {segment : List Char} (plain : HasNoConcept segment)
    (apart : c = '~' → ∀ d ∈ segment.head?, Text.isWordCharacter d = false) :
    HasNoConcept (c :: segment) := by
  intro before d after split
  cases before with
  | nil =>
    rw [List.nil_append, List.cons.injEq] at split
    apply apart split.1
    rw [split.2]
    rfl
  | cons first before =>
    rw [List.cons_append, List.cons.injEq] at split
    exact plain before d after split.2

theorem no_word_behind_tilde {rest : List Char} (none : occurrence? ('~' :: rest) = none) :
    ∀ d ∈ rest.head?, Text.isWordCharacter d = false := by
  cases rest with
  | nil => simp
  | cons d rest =>
    rintro _ ⟨⟩
    have solid : Text.isBlank '~' = false := by decide
    by_contra inWord
    simp [occurrence?, solid, inWord] at none

/-- A blank directly in front of a concept is part of it. -/
theorem no_blank_before {c : Char} {rest : List Char} {occurrence : Occurrence}
    (none : occurrence? (c :: (occurrence.toList ++ rest)) = none)
    (stands : occurrence.Stands rest) : Text.isBlank c = false := by
  by_contra blank
  rw [Bool.not_eq_false] at blank
  have wider : occurrence? (c :: (occurrence.toList ++ rest)) =
      some { occurrence with before := c :: occurrence.before } := by
    refine occurrence_eq_some_iff.mpr ⟨rest, rfl, { stands with before_blank := ?_ }⟩
    simpa [blank] using stands.before_blank
  rw [none] at wider
  cases wider

theorem Cuts.cons {c : Char} {rest segment : List Char} {later : List (Occurrence × List Char)}
    (cuts : Cuts rest segment later) (none : occurrence? (c :: rest) = none) :
    Cuts (c :: rest) (c :: segment) later := by
  have plain : HasNoConcept (c :: segment) := by
    refine cuts.plain.cons ?_
    rintro rfl d first
    apply no_word_behind_tilde none d
    rw [cuts.whole, fill, List.head?_append]
    simp [Option.mem_def.mp first]
  cases cuts with
  | last _ => exact .last plain
  | @next segment rest following occurrence later _ solid stands cut =>
    have extended : Cuts (c :: segment ++ occurrence.toList ++ rest) (c :: segment)
        ((occurrence, following) :: later) := by
      refine .next plain ?_ stands cut
      cases segment with
      | nil =>
        rintro _ ⟨⟩
        exact no_blank_before none stands
      | cons d segment => rwa [List.getLast?_cons_cons]
    exact extended

theorem parts_of_text (text : List Char) : ∃ segment later, Cuts text segment later ∧
    parts text = segment.map .plain ++
      later.flatMap fun entry => .concept entry.1 :: entry.2.map .plain := by
  -- An occurrence takes up several characters at once, so the induction is on the length.
  induction size : text.length using Nat.strongRecOn generalizing text with
  | _ size ih =>
  subst size
  cases text with
  | nil => exact ⟨[], [], .last (by simp [HasNoConcept]), rfl⟩
  | cons c rest =>
    cases found : occurrence? (c :: rest) with
    | none =>
      obtain ⟨segment, later, cuts, same⟩ := ih rest.length (by simp) rest rfl
      have plain : parts (c :: rest) = .plain c :: parts rest := by
        simp only [parts, partsAfter, found]
      refine ⟨c :: segment, later, cuts.cons found, ?_⟩
      rw [plain, same]
      rfl
    | some occurrence =>
      obtain ⟨after, split, stands⟩ := occurrence_eq_some_iff.mp found
      have shorter : after.length < (c :: rest).length := by
        rw [split, Occurrence.toList]
        simp only [List.length_append, List.length_cons]
        omega
      obtain ⟨segment, later, cuts, same⟩ := ih after.length shorter after rfl
      refine ⟨[], (occurrence, segment) :: later, ?_, ?_⟩
      · have first : Cuts ([] ++ occurrence.toList ++ after) [] ((occurrence, segment) :: later) :=
          .next (by simp [HasNoConcept]) (by simp) stands cuts
        rw [split]
        exact first
      · rw [parts_of_occurrence found split, same]
        rfl

/- What is put in. -/

def synonyms (words : List String) : List (List Char) :=
  ((words.filter fun word => !word.toList.all Text.isBlank).map fun word =>
    Regex.escape (Text.trim word.toList)).eraseDups

def alternatives (words : List String) (name : List Char) : List (List Char) :=
  if (synonyms words).contains (Regex.escape name) then synonyms words
  else synonyms words ++ [Regex.escape name]

/-- A concept that has words becomes a group of alternatives between word ends. One that has none
stays as it is. -/
def replacement (answer : String → List String) (occurrence : Occurrence) : List Char :=
  if answer occurrence.word = [] then occurrence.toList
  else "(?=^|\\s)\\s*(".toList ++
    ['|'].intercalate (alternatives (answer occurrence.word) occurrence.name) ++
    ")(?=\\s|$)\\s*".toList

theorem escape_eq_nil {text : List Char} : Regex.escape text = [] ↔ text = [] := by
  cases text with
  | nil => simp [Regex.escape]
  | cons c rest =>
    simp only [Regex.escape, List.flatMap_cons, Regex.escapeChar]
    split <;> simp

theorem trim_eq_nil_iff {text : List Char} :
    Text.trim text = [] ↔ text.all Text.isBlank = true := by
  rw [List.all_eq_true]
  constructor
  · intro nothing c member
    by_contra solid
    exact Text.trim_ne_nil member (by simpa using solid) nothing
  · intro blank
    have start : Text.trimStart text = [] := List.dropWhile_eq_nil_iff.mpr blank
    rw [Text.trim, start]
    rfl

theorem trim_word {name : List Char} (inWord : ∀ c ∈ name, Text.isWordCharacter c = true) :
    Text.trim name = name := by
  have solid : ∀ c ∈ name, Text.isBlank c = false := by
    intro c member
    rw [Bool.eq_false_iff]
    intro blank
    have outside := Text.blank_is_no_word_character blank
    rw [inWord c member] at outside
    cases outside
  refine Text.trim_eq_self_iff.mpr ⟨?_, ?_⟩
  · intro c first
    exact solid c (List.mem_of_mem_head? first)
  · intro c last
    exact solid c (List.mem_of_mem_getLast? last)

theorem eraseDups_concat {α : Type} [BEq α] [LawfulBEq α] (xs : List α) (y : α) :
    (xs ++ [y]).eraseDups =
      if xs.eraseDups.contains y then xs.eraseDups else xs.eraseDups ++ [y] := by
  rw [List.eraseDups_append, List.cons_removeAll]
  by_cases present : y ∈ xs
  · simp [present, List.mem_eraseDups]
  · simp [present, List.mem_eraseDups, List.eraseDups_cons]

theorem spellings_eq (words : List String) {name : List Char} (named : name ≠ [])
    (inWord : ∀ c ∈ name, Text.isWordCharacter c = true) :
    spellings words name = alternatives words name := by
  have kept (word : String) : (!(Regex.escape (Text.trim word.toList)).isEmpty) =
      !word.toList.all Text.isBlank := by
    rw [Bool.eq_iff_iff]
    simp only [Bool.not_eq_true', List.isEmpty_eq_false_iff, ne_eq, escape_eq_nil, trim_eq_nil_iff,
      Bool.not_eq_true]
  have own : (!(Regex.escape name).isEmpty) = true := by
    simpa [escape_eq_nil] using named
  have listed : ((words.map String.toList).map fun word => Regex.escape (Text.trim word)).filter
      (!·.isEmpty) = (words.filter fun word => !word.toList.all Text.isBlank).map fun word =>
        Regex.escape (Text.trim word.toList) := by
    rw [List.map_map, List.filter_map]
    congr 1
    apply List.filter_congr
    intro word _
    exact kept word
  rw [spellings, alternatives, synonyms, ← eraseDups_concat]
  simp only [List.map_append, List.filter_append, listed, List.map_cons, List.map_nil,
    trim_word inWord]
  rw [List.filter_cons, if_pos own, List.filter_nil]

theorem Cuts.named {text segment : List Char} {later : List (Occurrence × List Char)}
    (cuts : Cuts text segment later) : ∀ entry ∈ later,
      entry.1.name ≠ [] ∧ ∀ c ∈ entry.1.name, Text.isWordCharacter c = true := by
  induction cuts with
  | last plain => simp
  | next plain solid stands cut ih =>
    rw [List.forall_mem_cons]
    exact ⟨⟨stands.named, stands.in_word⟩, ih⟩

theorem render_concept (answer : String → List String) {occurrence : Occurrence}
    (named : occurrence.name ≠ [])
    (inWord : ∀ c ∈ occurrence.name, Text.isWordCharacter c = true) :
    (Part.concept occurrence).render answer = replacement answer occurrence := by
  by_cases silent : answer occurrence.word = []
  · have empty : (answer occurrence.word).isEmpty = true := List.isEmpty_iff.mpr silent
    rw [replacement, if_pos silent, Part.render, if_pos empty]
  · have some : ¬ (answer occurrence.word).isEmpty = true := mt List.isEmpty_iff.mp silent
    have said := spellings_eq (answer occurrence.word) named inWord
    rw [replacement, if_neg silent, ← said, Part.render, if_neg some]
    rfl

theorem plain_render (answer : String → List String) (segment : List Char) :
    (segment.map Part.plain).flatMap (Part.render answer) = segment := by
  simp [List.flatMap_map, Part.render]

theorem rendered_parts (answer : String → List String) (segment : List Char)
    {later : List (Occurrence × List Char)}
    (named : ∀ entry ∈ later,
      entry.1.name ≠ [] ∧ ∀ c ∈ entry.1.name, Text.isWordCharacter c = true) :
    (segment.map Part.plain ++ later.flatMap fun entry =>
        Part.concept entry.1 :: entry.2.map Part.plain).flatMap (Part.render answer) =
      fill (replacement answer) segment later := by
  rw [List.flatMap_append, plain_render, fill]
  congr 1
  induction later with
  | nil => rfl
  | cons entry later ih =>
    rw [List.forall_mem_cons] at named
    rw [List.flatMap_cons, List.flatMap_append, ih named.2, List.flatMap_cons, List.flatMap_cons,
      plain_render, render_concept answer named.1.1 named.1.2]

theorem plain_picks_nothing {pick : Part → Option String} (skips : ∀ c, pick (.plain c) = none)
    (segment : List Char) : (segment.map Part.plain).filterMap pick = [] := by
  simp [List.filterMap_map, skips]

theorem picked_from_concepts {pick : Part → Option String} (skips : ∀ c, pick (.plain c) = none)
    (segment : List Char) (later : List (Occurrence × List Char)) :
    (segment.map Part.plain ++ later.flatMap fun entry =>
        Part.concept entry.1 :: entry.2.map Part.plain).filterMap pick =
      later.filterMap fun entry => pick (.concept entry.1) := by
  rw [List.filterMap_append, plain_picks_nothing skips, List.nil_append]
  induction later with
  | nil => rfl
  | cons entry later ih =>
    rw [List.flatMap_cons, List.filterMap_append, ih, List.filterMap_cons, List.filterMap_cons,
      plain_picks_nothing skips]
    cases pick (.concept entry.1) <;> rfl

/-- One cut of a pattern shows what becomes of it, whatever the words for its concepts are. -/
theorem expandPattern_of_cuts (clean : String) :
    ∃ segment later, Cuts clean.toList segment later ∧
      wordsToAsk clean = later.map (·.1.word) ∧
      ∀ answer : String → List String, expandPattern answer clean =
        ⟨String.ofList (fill (replacement answer) segment later),
          (later.map (·.1.word)).filter fun word => (answer word).isEmpty⟩ := by
  obtain ⟨segment, later, cuts, same⟩ := parts_of_text clean.toList
  refine ⟨segment, later, cuts, ?_, ?_⟩
  · rw [wordsToAsk, same, picked_from_concepts (fun _ => rfl)]
    exact congrFun List.filterMap_eq_map' later
  · intro answer
    have missing : later.filterMap (fun entry => (Part.concept entry.1).unexpanded? answer) =
        (later.map (·.1.word)).filter fun word => (answer word).isEmpty := by
      rw [← List.filterMap_eq_filter, List.filterMap_map]
      rfl
    rw [expandPattern, same, rendered_parts answer segment cuts.named,
      picked_from_concepts (fun _ => rfl), missing]

theorem unreplaced {answer : String → List String} {segment : List Char}
    {later : List (Occurrence × List Char)} (silent : ∀ entry ∈ later, answer entry.1.word = []) :
    fill (replacement answer) segment later = fill Occurrence.toList segment later := by
  rw [fill, fill]
  congr 1
  induction later with
  | nil => rfl
  | cons entry later ih =>
    rw [List.forall_mem_cons] at silent
    rw [List.flatMap_cons, List.flatMap_cons, ih silent.2, replacement, if_pos silent.1]

/-- Replacing concepts is one substitution. The pattern is cut into segments without a concept and
concepts with the blanks around them. A concept that the expander has words for gives way to their
alternatives, and any other concept stays and is told, in order. Without words for any of them the
pattern stays as it is. Nothing but what the expander says to these concepts makes a difference, so
what was put in is not expanded in its turn. -/
theorem concepts_are_replaced_once (expander : Expander) (clean : String) :
    ∃ segment later, Cuts clean.toList segment later ∧
      clean.toList = fill Occurrence.toList segment later ∧
      expandPattern (expander.learn (wordsToAsk clean)).recall clean =
        ⟨String.ofList (fill (replacement expander.answer) segment later),
          (later.map (·.1.word)).filter fun word => (expander.answer word).isEmpty⟩ ∧
      ((∀ entry ∈ later, expander.answer entry.1.word = []) →
        (expandPattern (expander.learn (wordsToAsk clean)).recall clean).clean = clean) ∧
      ∀ other : Expander,
        (∀ entry ∈ later, other.answer entry.1.word = expander.answer entry.1.word) →
        expandPattern (other.learn (wordsToAsk clean)).recall clean =
          expandPattern (expander.learn (wordsToAsk clean)).recall clean := by
  obtain ⟨segment, later, cuts, words, expanded⟩ := expandPattern_of_cuts clean
  have asked (expander : Expander) :
      expandPattern (expander.learn (wordsToAsk clean)).recall clean =
        expandPattern expander.answer clean :=
    expandPattern_congr fun _ member => recall_learned member
  refine ⟨segment, later, cuts, cuts.whole, ?_, ?_, ?_⟩
  · rw [asked, expanded]
  · intro silent
    rw [asked, expanded, unreplaced silent, ← cuts.whole, String.ofList_toList]
  · intro other agree
    rw [asked, asked]
    apply expandPattern_congr
    intro word member
    rw [words, List.mem_map] at member
    obtain ⟨entry, listed, rfl⟩ := member
    exact agree entry listed

-- The blank between two concepts goes with the first one.
example :
    expandPattern (fun word => if word = "pet" then ["a cat ", "", "a cat"] else []) "my ~pet ~x" =
      ⟨"my(?=^|\\s)\\s*(a cat|pet)(?=\\s|$)\\s*~x", ["x"]⟩ := by
  rfl

end DialogueScript.Concept
