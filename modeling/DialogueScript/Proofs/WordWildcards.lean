import DialogueScript.Proofs.LiteralConversations
import DialogueScript.Proofs.WrittenPatterns

/- Wildcards that count words. A range is rendered as words with blanks behind them, and the blanks
   may be missing, so that a word can fill several places of the range. Hence the upper bound counts
   words and the lower bound counts characters. An exact count has blanks between its words. -/
namespace DialogueScript.Pattern
open Regex

section Ranges

variable {text word gap : List Char} {count least most : Nat}

theorem mem_solidRun : word ∈ language solidRun ↔ Text.IsWord word := by
  rw [solidRun, mem_some_run]
  simp only [CharTest.accepts, Bool.not_eq_true']
  constructor
  · rintro ⟨nonempty, solid⟩
    exact ⟨nonempty, solid⟩
  · rintro ⟨nonempty, solid⟩
    exact ⟨nonempty, solid⟩

/-- A word and the blanks behind it, if there are any. -/
def place : Language Char := (sequence [solidRun, blanks]).language

theorem mem_place : text ∈ place ↔ ∃ word gap, Text.IsWord word ∧
    (∀ c ∈ gap, Text.isBlank c = true) ∧ word ++ gap = text := by
  have parts : place = language solidRun * language blanks := by
    rw [← language_single blanks]
    rfl
  rw [parts, Language.mem_mul]
  constructor
  · rintro ⟨word, isWord, gap, blank, rfl⟩
    exact ⟨word, gap, mem_solidRun.mp isWord, mem_blanks.mp blank, rfl⟩
  · rintro ⟨word, gap, isWord, blank, rfl⟩
    exact ⟨word, mem_solidRun.mpr isWord, gap, mem_blanks.mpr blank, rfl⟩

theorem place_holds_word (filled : text ∈ place) :
    Text.StartsSolid text ∧ (Text.words text).length = 1 := by
  obtain ⟨word, gap, isWord, blank, rfl⟩ := mem_place.mp filled
  refine ⟨isWord.starts.append gap, ?_⟩
  rw [Text.words_before_blanks blank, isWord.words]
  rfl

/-- So many places hold no more words than places and no fewer characters. -/
theorem places_bound (filled : text ∈ place ^ count) :
    (∀ c ∈ text.head?, Text.isBlank c = false) ∧ (Text.words text).length ≤ count ∧
      count ≤ text.countP (!Text.isBlank ·) := by
  induction count generalizing text with
  | zero =>
    rw [pow_zero, Language.mem_one] at filled
    subst filled
    exact ⟨by simp, Nat.le_refl 0, Nat.zero_le _⟩
  | succ count ih =>
    rw [pow_succ', Language.mem_mul] at filled
    obtain ⟨first, isPlace, rest, others, rfl⟩ := filled
    obtain ⟨starts, one⟩ := place_holds_word isPlace
    obtain ⟨_, few, enough⟩ := ih others
    have cut := Text.words_append_le first rest
    have characters := Text.words_le_solid first
    refine ⟨(Text.startsSolid_iff.mp (starts.append rest)).2, by omega, ?_⟩
    rw [List.countP_append]
    omega

theorem joins_first_place {c : Char} (solid : Text.isBlank c = false) (positive : count ≠ 0)
    (filled : text ∈ place ^ count) : c :: text ∈ place ^ count := by
  obtain ⟨others, rfl⟩ := Nat.exists_eq_succ_of_ne_zero positive
  rw [pow_succ', Language.mem_mul] at filled ⊢
  obtain ⟨first, isPlace, rest, filled, rfl⟩ := filled
  obtain ⟨word, gap, isWord, blank, rfl⟩ := mem_place.mp isPlace
  have longer : Text.IsWord (c :: word) := by
    refine ⟨List.cons_ne_nil c word, ?_⟩
    rw [List.forall_mem_cons]
    exact ⟨solid, isWord.solid⟩
  exact ⟨c :: word ++ gap, mem_place.mpr ⟨c :: word, gap, longer, blank, rfl⟩, rest, filled, rfl⟩

theorem takes_place {c : Char} (solid : Text.isBlank c = false) {rest : List Char}
    (blank : ∀ d ∈ gap, Text.isBlank d = true) (filled : rest ∈ place ^ count) :
    c :: (gap ++ rest) ∈ place ^ (count + 1) := by
  have single : Text.IsWord [c] := ⟨List.cons_ne_nil c [], by simpa using solid⟩
  rw [pow_succ']
  exact ⟨c :: gap, mem_place.mpr ⟨[c], gap, single, blank, rfl⟩, rest, filled, rfl⟩

/-- Every number of places between the words and the characters of a text can be filled by it. -/
theorem places_reached (text : List Char) {count : Nat}
    (enough : (Text.words text).length ≤ count) (room : count ≤ text.countP (!Text.isBlank ·)) :
    Text.trimStart text ∈ place ^ count := by
  induction text generalizing count with
  | nil =>
    obtain rfl : count = 0 := Nat.le_zero.mp room
    rfl
  | cons c rest ih =>
    cases blank : Text.isBlank c with
    | true =>
      rw [Text.words_of_blank blank] at enough
      rw [List.countP_cons_of_neg (by simp [blank])] at room
      rw [Text.trimStart, List.dropWhile_cons_of_pos blank]
      exact ih enough room
    | false =>
      rw [List.countP_cons_of_pos (by simp [blank])] at room
      rw [Text.trimStart, List.dropWhile_cons_of_neg (by simp [blank])]
      by_cases starts : Text.StartsSolid rest
      · -- The character joins the next place, or takes one of its own if the rest fills no more.
        rw [Text.words_before_word blank starts] at enough
        have word := starts.has_word
        have few := Text.words_le_solid rest
        rw [Text.trimStart_of_solid (Text.startsSolid_iff.mp starts).2] at ih
        by_cases joins : count ≤ rest.countP (!Text.isBlank ·)
        · exact joins_first_place blank (by omega) (ih enough joins)
        · obtain rfl : count = rest.countP (!Text.isBlank ·) + 1 := by omega
          exact takes_place blank (List.forall_mem_nil _) (ih few (Nat.le_refl _))
      · rw [Text.words_apart blank starts, List.length_cons] at enough
        obtain ⟨others, rfl⟩ := Nat.exists_eq_add_one_of_ne_zero (by omega : count ≠ 0)
        have later := ih (by omega : _ ≤ others) (by omega)
        rw [← @List.takeWhile_append_dropWhile _ Text.isBlank rest]
        exact takes_place blank (fun _ member => List.mem_takeWhile_imp member) later

theorem mem_places : text ∈ place ^ count ↔ (∀ c ∈ text.head?, Text.isBlank c = false) ∧
    (Text.words text).length ≤ count ∧ count ≤ text.countP (!Text.isBlank ·) := by
  constructor
  · exact places_bound
  · rintro ⟨first, enough, room⟩
    rw [← Text.trimStart_of_solid first]
    exact places_reached text enough room

theorem mem_wordsBetween (ordered : least ≤ most) : text ∈ (wordsBetween least most).language ↔
    (text = [] ∧ least = 0) ∨ (Text.StartsSolid text ∧
      least ≤ text.countP (!Text.isBlank ·) ∧ (Text.words text).length ≤ most) := by
  have range : (wordsBetween least most).language = copies place least (some most) :=
    language_single _
  have counted : text ∈ (wordsBetween least most).language ↔
      (∀ c ∈ text.head?, Text.isBlank c = false) ∧
        least ≤ text.countP (!Text.isBlank ·) ∧ (Text.words text).length ≤ most := by
    rw [range]
    constructor
    · rintro ⟨count, above, below, filled⟩
      obtain ⟨first, few, enough⟩ := mem_places.mp filled
      have limit := below most rfl
      exact ⟨first, by omega, by omega⟩
    · rintro ⟨first, enough, few⟩
      have fewer := Text.words_le_solid text
      refine ⟨max least (Text.words text).length, by omega, ?_, ?_⟩
      · intro bound given
        cases given
        omega
      · exact mem_places.mpr ⟨first, by omega, by omega⟩
  rw [counted, Text.startsSolid_iff]
  by_cases empty : text = []
  · subst empty
    simp [Text.words]
  · simp [empty]

end Ranges

section Exact

variable {text gap : List Char} {more : Nat}

theorem mem_someBlanks : gap ∈ language someBlanks ↔ Text.IsGap gap := by
  rw [someBlanks, mem_some_run]
  constructor
  · rintro ⟨nonempty, blank⟩
    exact ⟨nonempty, blank⟩
  · rintro ⟨nonempty, blank⟩
    exact ⟨nonempty, blank⟩

def spaced (more : Nat) : Language Char :=
  language solidRun * (sequence [someBlanks, solidRun]).language ^ more

theorem spaced_succ (more : Nat) :
    spaced (more + 1) = language solidRun * (language someBlanks * spaced more) := by
  have pair : (sequence [someBlanks, solidRun]).language =
      language someBlanks * language solidRun := by
    rw [← language_single solidRun]
    rfl
  rw [spaced, spaced, pow_succ', pair, mul_assoc]

theorem words_of_spaced (spacing : text ∈ spaced more) :
    Text.SolidEnds text ∧ (Text.words text).length = more + 1 := by
  induction more generalizing text with
  | zero =>
    rw [spaced, pow_zero, mul_one, mem_solidRun] at spacing
    refine ⟨Text.solidEnds_of_solid spacing.solid, ?_⟩
    rw [spacing.words]
    rfl
  | succ more ih =>
    rw [spaced_succ, Language.mem_mul] at spacing
    obtain ⟨word, inRun, _, ⟨gap, inGap, later, isLater, rfl⟩, rfl⟩ := spacing
    have isWord := mem_solidRun.mp inRun
    have isGap := mem_someBlanks.mp inGap
    obtain ⟨ends, count⟩ := ih isLater
    have follows : later ≠ [] := by
      rintro rfl
      cases count
    refine ⟨Text.solidEnds_spaced isWord follows ends, ?_⟩
    rw [Text.words_spaced isWord isGap, List.length_cons, count]

theorem spaced_of_words (ends : Text.SolidEnds text)
    (count : (Text.words text).length = more + 1) : text ∈ spaced more := by
  induction more generalizing text with
  | zero =>
    rw [spaced, pow_zero, mul_one, mem_solidRun]
    have nonempty : text ≠ [] := by
      rintro rfl
      cases count
    obtain ⟨word, isWord, rfl | ⟨gap, later, isGap, follows, laterEnds, rfl⟩⟩ :=
      Text.split_first_word nonempty ends
    · exact isWord
    · have another := (Text.startsSolid_iff.mpr ⟨follows, laterEnds.first⟩).has_word
      rw [Text.words_spaced isWord isGap, List.length_cons] at count
      omega
  | succ more ih =>
    have nonempty : text ≠ [] := by
      rintro rfl
      cases count
    obtain ⟨word, isWord, rfl | ⟨gap, later, isGap, _, laterEnds, rfl⟩⟩ :=
      Text.split_first_word nonempty ends
    · rw [isWord.words] at count
      cases count
    · rw [Text.words_spaced isWord isGap, List.length_cons, Nat.add_right_cancel_iff] at count
      rw [spaced_succ]
      exact ⟨word, mem_solidRun.mpr isWord, gap ++ later,
        ⟨gap, mem_someBlanks.mpr isGap, later, ih laterEnds count, rfl⟩, rfl⟩

theorem copies_exactly (members : Language Char) (count : Nat) :
    copies members count (some count) = members ^ count := by
  ext text
  constructor
  · rintro ⟨other, above, below, made⟩
    rwa [Nat.le_antisymm above (below count rfl)]
  · intro made
    exact ⟨count, Nat.le_refl count, by simp, made⟩

theorem exactly_language (count : Nat) :
    (sequence (Piece.items (.exactly count))).language = spaced (count - 1) := by
  have behind : (sequence [Regex.repeated (.group false (sequence [someBlanks, solidRun]))
      (count - 1) (some (count - 1)) true]).language =
        (sequence [someBlanks, solidRun]).language ^ (count - 1) := by
    rw [language_single]
    exact copies_exactly _ _
  rw [Piece.items, language_single, spaced, ← behind]
  rfl

end Exact

section Spelling

variable {n least most : Nat}

theorem readWildcard_exactly (positive : 0 < n) (small : n < countLimit) :
    readWildcard (digits n) = .ok ⟨some (.exactly n), (digits n).length⟩ := by
  simpa using readWildcard_count (readCount_digits small) (Nat.ne_of_gt positive) endsPiece_nil

theorem readWildcard_upTo (small : n < countLimit) :
    readWildcard ('~' :: digits n) = .ok ⟨some (.upTo n), (digits n).length + 1⟩ := by
  simpa using readWildcard_limit (readCount_digits small) endsPiece_nil

theorem readWildcard_between (ordered : least ≤ most) (small : most < countLimit) :
    readWildcard ('(' :: (digits least ++ '-' :: digits most ++ [')'])) =
      .ok ⟨some (.between least most),
        (digits least ++ '-' :: digits most ++ [')']).length + 1⟩ := by
  have range := readRange_digits (Nat.lt_of_le_of_lt ordered small) small
  rw [@List.length_append _ _ [')']]
  exact readWildcard_range (range_without_close least most) range ordered []

theorem grammar_star {rest : List Char} {piece : Piece}
    (reads : readWildcard rest = .ok ⟨some piece, rest.length⟩) :
    grammar (String.ofList ('*' :: rest)) = .ok (String.ofList piece.render) := by
  have head : readPiece '*' rest = .ok ⟨some piece, rest.length⟩ := reads
  obtain ⟨later, goes⟩ := readFrom_pending (0 + '*'.utf8Size) rest.length rest
  have pieces : read ('*' :: rest) = .ok [piece] := by
    simp only [read, readFrom, head, goes, List.drop_length, Option.toList_some, List.append_nil]
  simp only [grammar, String.toList_ofList, pieces, render]

end Spelling

section Matches

variable {text : List Char} {n least most : Nat}

theorem range_match_iff (ordered : least ≤ most) :
    fullMatch (Piece.render (.between least most)) text = true ↔
      (text = [] ∧ least = 0) ∨ (Text.StartsSolid text ∧
        least ≤ text.countP (!Text.isBlank ·) ∧ (Text.words text).length ≤ most) := by
  have written : IsSequence (Piece.render (.between least most)) [wordsBetween least most] :=
    piece_isSequence ordered
  rw [fullMatch_iff written, language_single, mem_wordsBetween ordered]

theorem upTo_match_iff : fullMatch (Piece.render (.upTo n)) text = true ↔
    text = [] ∨ (Text.StartsSolid text ∧ (Text.words text).length ≤ n) := by
  have written : IsSequence (Piece.render (.upTo n)) [wordsBetween 0 n] := piece_isSequence trivial
  rw [fullMatch_iff written, language_single, mem_wordsBetween (Nat.zero_le n)]
  simp

theorem exactly_match_iff (positive : 0 < n) :
    fullMatch (Piece.render (.exactly n)) text = true ↔
      Text.SolidEnds text ∧ (Text.words text).length = n := by
  have written : IsSequence (Piece.render (.exactly n)) (Piece.items (.exactly n)) :=
    piece_isSequence trivial
  obtain ⟨more, rfl⟩ := Nat.exists_eq_add_one_of_ne_zero (Nat.ne_of_gt positive)
  rw [fullMatch_iff written, exactly_language, Nat.add_sub_cancel]
  constructor
  · exact words_of_spaced
  · rintro ⟨ends, count⟩
    exact spaced_of_words ends count

def HoldsWords (least most : Nat) (text : List Char) : Prop :=
  (text = [] ∧ least = 0) ∨ (Text.StartsSolid text ∧
    least ≤ (Text.words text).length ∧ (Text.words text).length ≤ most)

theorem letters_are_word {count : Nat} (positive : 0 < count) :
    Text.IsWord (List.replicate count 'a') := by
  refine ⟨by simpa using Nat.ne_of_gt positive, ?_⟩
  intro c member
  rw [List.eq_of_mem_replicate member]
  rfl

/-- A range takes texts of at most so many words, and of at least so many characters that are not
blank. That makes it count words just when one is enough. -/
theorem word_range_counts_words_iff (ordered : least ≤ most) :
    (most < countLimit →
      grammar (String.ofList ('*' :: '(' :: (digits least ++ '-' :: digits most ++ [')']))) =
        .ok (String.ofList (Piece.render (.between least most)))) ∧
    (∀ text, fullMatch (Piece.render (.between least most)) text = true ↔
      (text = [] ∧ least = 0) ∨ (Text.StartsSolid text ∧
        least ≤ text.countP (!Text.isBlank ·) ∧ (Text.words text).length ≤ most)) ∧
    ((∀ text, fullMatch (Piece.render (.between least most)) text = true ↔
      HoldsWords least most text) ↔ least ≤ 1) := by
  refine ⟨?_, fun text => range_match_iff ordered, ?_, ?_⟩
  · intro small
    exact grammar_star (readWildcard_between ordered small)
  · -- One word of as many letters as the range asks for words is taken.
    intro counts
    by_contra several
    have isWord := letters_are_word (by omega : 0 < least)
    have one : (Text.words (List.replicate least 'a')).length = 1 := by
      rw [isWord.words]
      rfl
    have letters : (List.replicate least 'a').countP (!Text.isBlank ·) = least := by
      rw [List.countP_eq_length.mpr (by simpa using isWord.solid), List.length_replicate]
    have filled := (range_match_iff ordered).mpr
      (.inr ⟨isWord.starts, Nat.le_of_eq letters.symm, by omega⟩)
    rcases (counts _).mp filled with ⟨_, none⟩ | ⟨_, enough, _⟩
    · omega
    · omega
  · intro one text
    rw [range_match_iff ordered, HoldsWords]
    apply or_congr_right
    apply and_congr_right
    intro starts
    have word := starts.has_word
    have characters := Text.words_le_solid text
    constructor
    · rintro ⟨_, few⟩
      exact ⟨by omega, few⟩
    · rintro ⟨_, few⟩
      exact ⟨by omega, few⟩

theorem word_range_from_two :
    grammar "*(2-3)" = .ok "((?:\\S+\\s*)\x7b2,3\x7d)" ∧
      fullMatch (Piece.render (.between 2 3)) "well then".toList = true ∧
      fullMatch (Piece.render (.between 2 3)) "a".toList = false ∧
      ¬ ∀ text, fullMatch (Piece.render (.between 2 3)) text = true ↔ HoldsWords 2 3 text := by
  obtain ⟨reads, takes, counts⟩ := @word_range_counts_words_iff 2 3 (by decide)
  refine ⟨reads (by decide), (takes _).mpr (.inr ⟨⟨'w', rfl, rfl⟩, by decide, by decide⟩), ?_, ?_⟩
  · rw [Bool.eq_false_iff, ne_eq, takes]
    rintro (⟨empty, _⟩ | ⟨_, enough, _⟩)
    · cases empty
    · exact absurd enough (by decide)
  · rw [counts]
    decide

/-- A single word fills two places. -/
theorem one_word_fills_two_places :
    fullMatch (Piece.render (.between 2 3)) "hello".toList = true ∧
      ¬ HoldsWords 2 3 "hello".toList := by
  constructor
  · rw [range_match_iff (by decide)]
    exact .inr ⟨⟨'h', rfl, rfl⟩, by decide, by decide⟩
  · rintro (⟨empty, _⟩ | ⟨_, enough, _⟩)
    · cases empty
    · exact absurd enough (by decide)

/-- An exact count takes the texts of so many words without blanks around them. A limit takes the
empty text and those that begin with a word and have no more words. -/
theorem counted_wildcards_count_words :
    (∀ n, 0 < n →
      (n < countLimit → grammar (String.ofList ('*' :: digits n)) =
        .ok (String.ofList (Piece.render (.exactly n)))) ∧
      ∀ text, fullMatch (Piece.render (.exactly n)) text = true ↔
        Text.SolidEnds text ∧ (Text.words text).length = n) ∧
    ∀ n,
      (n < countLimit → grammar (String.ofList ('*' :: '~' :: digits n)) =
        .ok (String.ofList (Piece.render (.upTo n)))) ∧
      ∀ text, fullMatch (Piece.render (.upTo n)) text = true ↔
        text = [] ∨ (Text.StartsSolid text ∧ (Text.words text).length ≤ n) := by
  constructor
  · intro n positive
    refine ⟨?_, fun text => exactly_match_iff positive⟩
    intro small
    exact grammar_star (readWildcard_exactly positive small)
  · intro n
    refine ⟨?_, fun text => upTo_match_iff⟩
    intro small
    exact grammar_star (readWildcard_upTo small)

theorem three_words_are_counted : 0 < 3 ∧
    grammar "*3" = .ok "(\\S+(?:\\s+\\S+)\x7b2\x7d)" ∧
    fullMatch (Piece.render (.exactly 3)) "well  then\tgo".toList = true ∧
    fullMatch (Piece.render (.exactly 3)) "well then".toList = false ∧
    fullMatch (Piece.render (.upTo 3)) "well then ".toList = true := by
  obtain ⟨counted, limited⟩ := counted_wildcards_count_words
  obtain ⟨reads, takes⟩ := counted 3 (by decide)
  refine ⟨by decide, reads (by decide), ?_, ?_, ?_⟩
  · refine (takes _).mpr ⟨⟨?_, ?_⟩, by decide⟩
    · rintro c ⟨⟩
      rfl
    · rintro c ⟨⟩
      rfl
  · rw [Bool.eq_false_iff, ne_eq, takes]
    rintro ⟨_, count⟩
    exact absurd count (by decide)
  · exact ((limited 3).2 _).mpr (.inr ⟨⟨'w', rfl, rfl⟩, by decide⟩)

end Matches

end DialogueScript.Pattern
