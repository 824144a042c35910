import DialogueScript.Proofs.ReadPieces
import DialogueScript.Proofs.RegexSyntax
import DialogueScript.Proofs.WordCounts

/- Patterns written out and read back. A stretch that spells a piece is read as that piece if a
   blank follows it or nothing at all, so pieces with blanks between them do not run into one
   another. -/
namespace DialogueScript.Pattern

def EndsPiece (rest : List Char) : Prop := ∀ c ∈ rest.head?, Text.isBlank c = true

theorem endsPiece_nil : EndsPiece [] := by simp [EndsPiece]

section Stretches

variable {c : Char} {rest : List Char}

theorem blank_is_boundary (blank : Text.isBlank c = true) : isBoundary c = true := by
  rw [isBoundary, blank, Bool.true_or]

set_option maxRecDepth 4000 in
theorem blank_is_no_name_character (blank : Text.isBlank c = true) : isNameCharacter c = false := by
  have letter : Text.isAlphanumeric c = false := Text.blank_not_covered (by rfl) blank
  have underscore : c ≠ '_' := by
    rintro rfl
    cases blank
  simp [isNameCharacter, letter, underscore]

theorem blank_is_no_digit (blank : Text.isBlank c = true) : c.isDigit = false := by
  rw [Bool.eq_false_iff]
  intro digit
  rw [Text.digit_is_solid digit] at blank
  cases blank

theorem EndsPiece.stops (ends : EndsPiece rest) {test : Char → Bool}
    (fails : ∀ c, Text.isBlank c = true → test c = false) :
    ∀ c ∈ rest.head?, test c = false := by
  intro c head
  exact fails c (ends c head)

theorem readGroup_to_close {bracket close : Char} {make : List (List (List Char)) → Piece}
    {body : List Char} (inside : close ∉ body) (rest : List Char) :
    readGroup bracket close make (body ++ close :: rest) =
      if (readAlternatives body).isEmpty then .error .emptyGroup
      else .ok ⟨some (make (readAlternatives body)), body.length + 1⟩ := by
  simp [readGroup, (cut_at_mark inside rest).1]

def rangeReading (body : List Char) : Except Cause Reading :=
  match readRange? body with
  | none => .ok ⟨some .anyText, 0⟩
  | some (least, most) =>
    if least ≤ most then .ok ⟨some (.between least most), body.length + 2⟩
    else .error (.descendingRange body)

theorem readWildcard_to_close {body : List Char} (inside : ')' ∉ body) (rest : List Char) :
    readWildcard ('(' :: (body ++ ')' :: rest)) = rangeReading body := by
  simp only [readWildcard, (cut_at_mark inside rest).1]
  rw [if_neg (by simp)]
  rfl

theorem readWildcard_anyText (ends : EndsPiece rest) :
    readWildcard rest = .ok ⟨some .anyText, 0⟩ := by
  unfold readWildcard
  split
  · rfl
  · exact absurd (ends '~' rfl) (by decide)
  · exact absurd (ends '(' rfl) (by decide)
  · rename_i d rest _ _
    rw [blank_is_no_digit (ends d rfl), if_neg Bool.false_ne_true]

theorem readWildcard_count {count : List Char} {n : Nat} (counts : readCount? count = some n)
    (positive : n ≠ 0) (ends : EndsPiece rest) :
    readWildcard (count ++ rest) = .ok ⟨some (.exactly n), count.length⟩ := by
  have digits := count_is_digits counts
  have nonempty : count ≠ [] := by
    rintro rfl
    cases counts
  have taken : (count ++ rest).takeWhile Char.isDigit = count :=
    (cut_at_run digits (ends.stops fun _ => blank_is_no_digit)).1
  obtain ⟨d, more, rfl⟩ := List.exists_cons_of_ne_nil nonempty
  have digit : d.isDigit = true := digits d List.mem_cons_self
  rw [List.cons_append] at taken ⊢
  unfold readWildcard
  split
  · rename_i nothing
    cases nothing
  · rename_i tilde
    cases tilde
    cases digit
  · rename_i bracket
    cases bracket
    cases digit
  · rename_i other others _ _ same
    cases same
    simp only [digit, taken, counts, ↓reduceIte]

theorem readWildcard_limit {count : List Char} {n : Nat} (counts : readCount? count = some n)
    (ends : EndsPiece rest) :
    readWildcard ('~' :: (count ++ rest)) = .ok ⟨some (.upTo n), count.length + 1⟩ := by
  have taken : (count ++ rest).takeWhile Char.isDigit = count :=
    (cut_at_run (count_is_digits counts) (ends.stops fun _ => blank_is_no_digit)).1
  simp only [readWildcard, taken, counts]

theorem readWildcard_range {body : List Char} {least most : Nat} (inside : ')' ∉ body)
    (range : readRange? body = some (least, most)) (ordered : least ≤ most) (rest : List Char) :
    readWildcard ('(' :: (body ++ ')' :: rest)) =
      .ok ⟨some (.between least most), body.length + 2⟩ := by
  rw [readWildcard_to_close inside, rangeReading, range]
  exact if_pos ordered

/-- A stretch is read as the piece that it spells if the piece ends there. -/
theorem Spells.read_back {taken : List Char} {piece : Option Piece}
    (spells : Spells (c :: taken) piece) (ends : EndsPiece rest) :
    readPiece c (taken ++ rest) = .ok ⟨piece, taken.length⟩ := by
  have inWord (inside : ∀ d ∈ c :: taken, isBoundary d = false) :
      isBoundary c = false ∧ (taken ++ rest).takeWhile (!isBoundary ·) = taken := by
    rw [List.forall_mem_cons] at inside
    refine ⟨inside.1, (cut_at_run (by simpa using inside.2) (ends.stops ?_)).1⟩
    intro d blank
    rw [blank_is_boundary blank]
    rfl
  generalize whole : c :: taken = text at spells
  cases spells with
  | blank blank =>
    cases whole
    exact readPiece_blank blank _
  | word inside left =>
    subst whole
    obtain ⟨starts, run⟩ := inWord inside
    rw [readPiece_word starts, run, if_neg (by simpa using left)]
  | punctuation inside gone =>
    subst whole
    obtain ⟨starts, run⟩ := inWord inside
    rw [readPiece_word starts, run, if_pos (by simpa using gone)]
  | concept named inName =>
    cases whole
    have run : (taken ++ rest).takeWhile isNameCharacter = taken :=
      (cut_at_run inName (ends.stops fun _ => blank_is_no_name_character)).1
    change (if ((taken ++ rest).takeWhile isNameCharacter).isEmpty then _ else _) = _
    rw [run, if_neg (by simpa using named)]
  | choice inside left =>
    rw [List.cons_append, List.cons.injEq] at whole
    obtain ⟨rfl, rfl⟩ := whole
    rw [List.append_assoc, List.singleton_append, List.length_append]
    exact (readGroup_to_close inside rest).trans (if_neg (by simpa using left))
  | optional inside left =>
    rw [List.cons_append, List.cons.injEq] at whole
    obtain ⟨rfl, rfl⟩ := whole
    rw [List.append_assoc, List.singleton_append, List.length_append]
    exact (readGroup_to_close inside rest).trans (if_neg (by simpa using left))
  | anyText =>
    cases whole
    exact readWildcard_anyText ends
  | exactly counts positive =>
    cases whole
    exact readWildcard_count counts positive ends
  | upTo counts =>
    cases whole
    exact readWildcard_limit counts ends
  | between inside range ordered =>
    rw [List.cons_append, List.cons_append, List.cons.injEq] at whole
    obtain ⟨rfl, rfl⟩ := whole
    rw [List.cons_append, List.append_assoc, List.singleton_append, List.length_cons,
      List.length_append]
    exact readWildcard_range inside range ordered rest

end Stretches

/- Numbers in patterns. -/

section Numbers

variable {n least most : Nat}

theorem digit_of_digits {c : Char} (member : c ∈ digits n) : c.isDigit = true :=
  Nat.isDigit_of_mem_toDigits (by decide) (by decide) member

theorem readCount_digits (small : n < countLimit) : readCount? (digits n) = some n := by
  have number := Regex.readNumber_toDigits n
  unfold Regex.readNumber? at number
  unfold readCount? digits
  split at number
  · cases number
  · rename_i readable
    rw [if_neg readable]
    simp only [Option.some.injEq] at number
    rw [number, if_pos small]

theorem readBound_digits (small : n < countLimit) : readBound? (digits n) = some n := by
  have trimmed : Text.trim (digits n) = digits n := by
    apply Text.trim_eq_self_iff.mpr
    apply Text.solidEnds_of_solid
    intro c member
    exact Text.digit_is_solid (digit_of_digits member)
  unfold readBound?
  rw [trimmed]
  split
  · rename_i rest signed
    have sign : '+' ∈ digits n := by
      rw [signed]
      exact List.mem_cons_self
    exact absurd sign (Regex.toDigits_without '+' (by decide) n)
  · exact readCount_digits small

theorem readRange_digits (lower : least < countLimit) (upper : most < countLimit) :
    readRange? (digits least ++ '-' :: digits most) = some (least, most) := by
  have inside : '-' ∉ digits least := Regex.toDigits_without '-' (by decide) least
  obtain ⟨before, behind⟩ := cut_at_mark inside (digits most)
  simp only [readRange?, before, behind, readBound_digits lower, readBound_digits upper]
  rfl

theorem range_without_close (least most : Nat) : ')' ∉ digits least ++ '-' :: digits most := by
  have without : ∀ n, ')' ∉ digits n := Regex.toDigits_without ')' (by decide)
  simp [without]

end Numbers

/- Pieces as their author writes them. -/

def writeAlternatives (alternatives : List (List (List Char))) : List Char :=
  ['|'].intercalate (alternatives.map Text.unwords)

def Piece.write : Piece → List Char
  | .word text => text
  | .concept name => '~' :: name
  | .choice alternatives => '(' :: writeAlternatives alternatives ++ [')']
  | .optional alternatives => '[' :: writeAlternatives alternatives ++ [']']
  | .anyText => ['*']
  | .exactly count => '*' :: digits count
  | .upTo count => '*' :: '~' :: digits count
  | .between least most => '*' :: '(' :: (digits least ++ '-' :: digits most) ++ [')']

def Piece.bare : Piece → Piece
  | .word text => .word (bareWord text)
  | .choice alternatives => .choice (alternatives.map (·.map bareWord))
  | .optional alternatives => .optional (alternatives.map (·.map bareWord))
  | other => other

/-- Something is left of a word without its sentence marks. -/
def SaysSomething (word : List Char) : Prop := ∃ c ∈ word, isPunctuation c = false

structure FitsGroup (close : Char) (alternatives : List (List (List Char))) : Prop where
  some : alternatives ≠ []
  each : ∀ words ∈ alternatives, words ≠ []
  solid : ∀ words ∈ alternatives, ∀ word ∈ words, ∀ c ∈ word,
    Text.isBlank c = false ∧ c ≠ '|' ∧ c ≠ close
  left : ∀ words ∈ alternatives, ∀ word ∈ words, SaysSomething word

def Piece.Writable : Piece → Prop
  | .word text => (∀ c ∈ text, isBoundary c = false) ∧ SaysSomething text
  | .concept name => name ≠ [] ∧ ∀ c ∈ name, isNameCharacter c = true
  | .choice alternatives => FitsGroup ')' alternatives
  | .optional alternatives => FitsGroup ']' alternatives
  | .anyText => True
  | .exactly count => 0 < count ∧ count < countLimit
  | .upTo count => count < countLimit
  | .between least most => least ≤ most ∧ most < countLimit

theorem bareWord_left {word : List Char} : bareWord word ≠ [] ↔ SaysSomething word := by
  simp [bareWord, SaysSomething]

section Groups

variable {close : Char} {alternatives : List (List (List Char))}

theorem FitsGroup.read_back (fits : FitsGroup close alternatives) :
    readAlternatives (writeAlternatives alternatives) = alternatives.map (·.map bareWord) := by
  have bars : ∀ text ∈ alternatives.map Text.unwords, '|' ∉ text := by
    rw [List.forall_mem_map]
    intro words listed
    apply Text.not_mem_intercalate (by decide)
    intro word isWord bar
    exact (fits.solid words listed word isWord '|' bar).2.1 rfl
  have parts : (alternatives.map Text.unwords).map
      (fun part => ((Text.words part).map bareWord).filter (!·.isEmpty)) =
        alternatives.map (·.map bareWord) := by
    rw [List.map_map]
    apply List.map_congr_left
    intro words listed
    have cut : Text.words (Text.unwords words) = words := by
      apply Text.words_unwords
      intro word isWord
      obtain ⟨c, member, _⟩ := fits.left words listed word isWord
      refine ⟨List.ne_nil_of_mem member, ?_⟩
      intro d inside
      exact (fits.solid words listed word isWord d inside).1
    change ((Text.words (Text.unwords words)).map bareWord).filter _ = _
    rw [cut, List.filter_eq_self, List.forall_mem_map]
    intro word isWord
    simpa using bareWord_left.mpr (fits.left words listed word isWord)
  unfold readAlternatives writeAlternatives
  rw [List.splitOn_intercalate '|' bars (by simpa using fits.some), parts, List.filter_eq_self,
    List.forall_mem_map]
  intro words listed
  simpa using fits.each words listed

theorem FitsGroup.closed (fits : FitsGroup close alternatives) (bar : close ≠ '|')
    (space : close ≠ ' ') : close ∉ writeAlternatives alternatives := by
  apply Text.not_mem_intercalate (by simpa using bar)
  rw [List.forall_mem_map]
  intro words listed
  apply Text.not_mem_intercalate (by simpa using space)
  intro word isWord bracket
  exact (fits.solid words listed word isWord close bracket).2.2 rfl

theorem FitsGroup.remains (fits : FitsGroup close alternatives) :
    readAlternatives (writeAlternatives alternatives) ≠ [] := by
  simpa [fits.read_back] using fits.some

end Groups

theorem Piece.Writable.spells {piece : Piece} (writable : piece.Writable) :
    Spells piece.write (some piece.bare) := by
  cases piece with
  | word text => exact .word writable.1 (bareWord_left.mpr writable.2)
  | concept name => exact .concept writable.1 writable.2
  | choice alternatives =>
    rw [Piece.bare, ← writable.read_back]
    exact .choice (writable.closed (by decide) (by decide)) writable.remains
  | optional alternatives =>
    rw [Piece.bare, ← writable.read_back]
    exact .optional (writable.closed (by decide) (by decide)) writable.remains
  | anyText => exact .anyText
  | exactly count => exact .exactly (readCount_digits writable.2) (Nat.ne_of_gt writable.1)
  | upTo count => exact .upTo (readCount_digits writable)
  | between least most =>
    have range := readRange_digits (Nat.lt_of_le_of_lt writable.1 writable.2) writable.2
    exact .between (range_without_close least most) range writable.1

/- Patterns as their author writes them. -/

inductive Written : List Piece → List Char → Prop where
  | nothing : Written [] []
  | last (piece : Piece) : Written [piece] piece.write
  | spaced {piece next : Piece} {others : List Piece} {gap text : List Char}
      (isGap : Text.IsGap gap) (later : Written (next :: others) text) :
      Written (piece :: next :: others) (piece.write ++ (gap ++ text))

def ReadsTo (text : List Char) (pieces : List Piece) : Prop :=
  ∀ offset, readFrom offset 0 text = .ok pieces

theorem ReadsTo.behind {taken rest : List Char} {piece : Option Piece} {pieces : List Piece}
    (spells : Spells taken piece) (nonempty : taken ≠ []) (ends : EndsPiece rest)
    (later : ReadsTo rest pieces) : ReadsTo (taken ++ rest) (piece.toList ++ pieces) := by
  intro offset
  obtain ⟨c, others, rfl⟩ := List.exists_cons_of_ne_nil nonempty
  rw [List.cons_append, readFrom, spells.read_back ends]
  simp only [readFrom_behind _ others.length, List.drop_left, later _]

theorem ReadsTo.behind_blanks {gap rest : List Char} {pieces : List Piece}
    (blank : ∀ c ∈ gap, Text.isBlank c = true) (later : ReadsTo rest pieces) :
    ReadsTo (gap ++ rest) pieces := by
  induction gap with
  | nil => exact later
  | cons c gap ih =>
    rw [List.forall_mem_cons] at blank
    intro offset
    rw [List.cons_append, readFrom, readPiece_blank blank.1]
    simp only [ih blank.2 _, Option.toList_none, List.nil_append]

theorem Piece.Writable.nonempty {piece : Piece} (writable : piece.Writable) : piece.write ≠ [] := by
  cases piece with
  | word text =>
    obtain ⟨c, member, _⟩ := writable.2
    exact List.ne_nil_of_mem member
  | _ => exact List.cons_ne_nil _ _

theorem Written.read_back {pieces : List Piece} {text : List Char} (written : Written pieces text)
    (writable : ∀ piece ∈ pieces, piece.Writable) : ReadsTo text (pieces.map Piece.bare) := by
  induction written with
  | nothing => exact fun _ => rfl
  | last piece =>
    have here := writable piece List.mem_cons_self
    have read : ReadsTo (piece.write ++ []) [piece.bare] :=
      ReadsTo.behind here.spells here.nonempty endsPiece_nil fun _ => rfl
    rwa [List.append_nil] at read
  | @spaced piece next others gap text isGap later ih =>
    rw [List.forall_mem_cons] at writable
    obtain ⟨here, follow⟩ := writable
    have ends : EndsPiece (gap ++ text) := by
      intro c head
      rw [List.head?_append_of_ne_nil _ isGap.nonempty] at head
      exact isGap.blank c (List.mem_of_head? head)
    exact ReadsTo.behind here.spells here.nonempty ends ((ih follow).behind_blanks isGap.blank)

/-- A pattern that is written piece by piece, with any blanks between the pieces, is read back as it
was written, less the sentence marks in its words. -/
theorem written_patterns_are_read_back {pieces : List Piece} {text : String}
    (writable : ∀ piece ∈ pieces, piece.Writable) (written : Written pieces text.toList) :
    read text.toList = .ok (pieces.map Piece.bare) ∧
      grammar text = .ok (String.ofList (render (pieces.map Piece.bare))) := by
  have pieces_read : read text.toList = .ok (pieces.map Piece.bare) := written.read_back writable 0
  exact ⟨pieces_read, grammar_of_read pieces_read⟩

def greeting : List Piece :=
  [.word "Hi,".toList, .choice [["yes!".toList], ["no".toList, "way".toList]], .between 1 3]

theorem greeting_is_writable : ∀ piece ∈ greeting, piece.Writable := by
  have word : "Hi,".toList.all (!isBoundary ·) = true := rfl
  have each : [["yes!".toList], ["no".toList, "way".toList]].all (·.all (·.all fun c =>
      !Text.isBlank c && c != '|' && c != ')')) = true := rfl
  have left : [["yes!".toList], ["no".toList, "way".toList]].all (·.all (·.any
      (!isPunctuation ·))) = true := rfl
  have fits : FitsGroup ')' [["yes!".toList], ["no".toList, "way".toList]] := by
    constructor
    · exact List.cons_ne_nil _ _
    · simp
    · simpa [and_assoc] using each
    · simpa [SaysSomething] using left
  simp only [greeting, List.forall_mem_cons]
  exact ⟨⟨by simpa using word, 'H', List.mem_cons_self, rfl⟩, fits, ⟨by decide, by decide⟩,
    by simp⟩

theorem greeting_is_read_back :
    grammar "Hi, \t(yes!|no way) *(1-3)" =
      .ok "Hi (yes|no way)\\s*((?:\\S+\\s*)\x7b1,3\x7d)" := by
  have wide : Text.IsGap " \t".toList :=
    ⟨List.cons_ne_nil _ _, List.all_eq_true.mp (by rfl : " \t".toList.all Text.isBlank = true)⟩
  have narrow : Text.IsGap " ".toList :=
    ⟨List.cons_ne_nil _ _, List.all_eq_true.mp (by rfl : " ".toList.all Text.isBlank = true)⟩
  have written : Written greeting "Hi, \t(yes!|no way) *(1-3)".toList :=
    .spaced wide (.spaced narrow (.last _))
  exact (written_patterns_are_read_back greeting_is_writable written).2

end DialogueScript.Pattern
