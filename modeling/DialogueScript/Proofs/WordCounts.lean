import DialogueScript.Proofs.TextCuts

/- How many words a text has. A cut through a text makes no words fewer, a word takes up a character
   at least, and a text without blanks at its ends falls into words with blanks between them. -/
namespace DialogueScript.Text

variable {text word gap later : List Char}

structure IsWord (word : List Char) : Prop where
  nonempty : word ≠ []
  solid : ∀ c ∈ word, isBlank c = false

structure IsGap (gap : List Char) : Prop where
  nonempty : gap ≠ []
  blank : ∀ c ∈ gap, isBlank c = true

def StartsSolid (text : List Char) : Prop := ∃ c ∈ text.head?, isBlank c = false

theorem startsSolid_iff :
    StartsSolid text ↔ text ≠ [] ∧ ∀ c ∈ text.head?, isBlank c = false := by
  cases text with
  | nil => simp [StartsSolid]
  | cons c rest => simp [StartsSolid]

theorem StartsSolid.has_word (starts : StartsSolid text) : 0 < (words text).length := by
  cases text with
  | nil => exact absurd rfl (startsSolid_iff.mp starts).1
  | cons c rest =>
    rw [words_of_solid ((startsSolid_iff.mp starts).2 c rfl)]
    exact Nat.succ_pos _

theorem StartsSolid.append (starts : StartsSolid text) (rest : List Char) :
    StartsSolid (text ++ rest) := by
  obtain ⟨c, head, solid⟩ := starts
  refine ⟨c, ?_, solid⟩
  rw [List.head?_append, Option.mem_def.mp head]
  rfl

theorem IsWord.starts (isWord : IsWord word) : StartsSolid word := by
  rw [startsSolid_iff]
  refine ⟨isWord.nonempty, ?_⟩
  intro c head
  exact isWord.solid c (List.mem_of_head? head)

theorem IsWord.words (isWord : IsWord word) : words word = [word] := by
  have whole : Text.words (word ++ []) = word :: Text.words [] :=
    words_of_word isWord.nonempty isWord.solid (by simp)
  rw [List.append_nil] at whole
  rw [whole]
  rfl

section Counting

theorem words_before_word {c : Char} (solid : isBlank c = false) {rest : List Char}
    (starts : StartsSolid rest) : (words (c :: rest)).length = (words rest).length := by
  cases rest with
  | nil => exact absurd rfl (startsSolid_iff.mp starts).1
  | cons d rest =>
    have next := (startsSolid_iff.mp starts).2 d rfl
    rw [words_of_solid solid, words_of_solid next, List.dropWhile_cons_of_pos (by simp [next])]
    rfl

theorem words_apart {c : Char} (solid : isBlank c = false) {rest : List Char}
    (apart : ¬ StartsSolid rest) : words (c :: rest) = [c] :: words rest := by
  apply words_of_word (List.cons_ne_nil c [])
  · simpa using solid
  · intro d head
    cases blank : isBlank d with
    | true => rfl
    | false => exact absurd ⟨d, head, blank⟩ apart

theorem words_cons_le (c : Char) (rest : List Char) :
    (words (c :: rest)).length ≤ (words rest).length + 1 := by
  cases blank : isBlank c with
  | true =>
    rw [words_of_blank blank]
    omega
  | false =>
    by_cases starts : StartsSolid rest
    · rw [words_before_word blank starts]
      omega
    · rw [words_apart blank starts, List.length_cons]

theorem words_append_le (before after : List Char) :
    (words (before ++ after)).length ≤ (words before).length + (words after).length := by
  induction before with
  | nil => exact Nat.le_add_left _ _
  | cons c rest ih =>
    rw [List.cons_append]
    cases blank : isBlank c with
    | true => rwa [words_of_blank blank, words_of_blank blank]
    | false =>
      by_cases starts : StartsSolid rest
      · rwa [words_before_word blank (starts.append after), words_before_word blank starts]
      · have more := words_cons_le c (rest ++ after)
        rw [words_apart blank starts, List.length_cons]
        omega

theorem words_le_solid (text : List Char) :
    (words text).length ≤ text.countP (!isBlank ·) := by
  induction text with
  | nil => exact Nat.le_refl 0
  | cons c rest ih =>
    cases blank : isBlank c with
    | true =>
      rw [words_of_blank blank, List.countP_cons_of_neg (by simp [blank])]
      exact ih
    | false =>
      have more := words_cons_le c rest
      rw [List.countP_cons_of_pos (by simp [blank])]
      omega

end Counting

section Spacing

theorem words_behind_blanks (blank : ∀ c ∈ gap, isBlank c = true) (text : List Char) :
    words (gap ++ text) = words text := by
  induction gap with
  | nil => rfl
  | cons c rest ih =>
    rw [List.forall_mem_cons] at blank
    rw [List.cons_append, words_of_blank blank.1, ih blank.2]

theorem words_spaced (isWord : IsWord word) (isGap : IsGap gap) (later : List Char) :
    words (word ++ (gap ++ later)) = word :: words later := by
  rw [words_of_word isWord.nonempty isWord.solid, words_behind_blanks isGap.blank]
  intro c head
  rw [List.head?_append_of_ne_nil _ isGap.nonempty] at head
  exact isGap.blank c (List.mem_of_head? head)

theorem solidEnds_of_solid (solid : ∀ c ∈ text, isBlank c = false) : SolidEnds text := by
  constructor
  · intro c head
    exact solid c (List.mem_of_head? head)
  · intro c last
    exact solid c (List.mem_of_getLast? last)

theorem solidEnds_spaced (isWord : IsWord word) (follows : later ≠ []) (ends : SolidEnds later) :
    SolidEnds (word ++ (gap ++ later)) := by
  constructor
  · exact (startsSolid_iff.mp (isWord.starts.append _)).2
  · intro c last
    rw [← List.append_assoc, List.getLast?_append_of_ne_nil _ follows] at last
    exact ends.last c last

theorem split_gap {behind : List Char} (nonempty : behind ≠ [])
    (first : ∀ c ∈ behind.head?, isBlank c = true)
    (last : ∀ c ∈ behind.getLast?, isBlank c = false) :
    ∃ gap later, IsGap gap ∧ later ≠ [] ∧ SolidEnds later ∧ behind = gap ++ later := by
  have whole := @List.takeWhile_append_dropWhile _ isBlank behind
  have blank : ∀ c ∈ behind.takeWhile isBlank, isBlank c = true :=
    fun _ member => List.mem_takeWhile_imp member
  refine ⟨behind.takeWhile isBlank, behind.dropWhile isBlank, ⟨?_, blank⟩, ?_, ⟨?_, ?_⟩,
    whole.symm⟩
  · cases behind with
    | nil => exact absurd rfl nonempty
    | cons c rest => simp [first c rfl]
  · intro nothing
    rw [nothing, List.append_nil] at whole
    have solid := last _ (List.getLast?_eq_some_getLast nonempty)
    rw [blank _ (whole.symm ▸ List.getLast_mem nonempty)] at solid
    cases solid
  · intro c head
    have solid := List.head?_dropWhile_not isBlank behind
    rwa [Option.mem_def.mp head] at solid
  · exact solid_of_suffix (List.dropWhile_suffix _) last

theorem split_first_word (nonempty : text ≠ []) (ends : SolidEnds text) :
    ∃ word, IsWord word ∧ (text = word ∨
      ∃ gap later, IsGap gap ∧ later ≠ [] ∧ SolidEnds later ∧ text = word ++ (gap ++ later)) := by
  cases text with
  | nil => exact absurd rfl nonempty
  | cons c rest =>
    have isWord : IsWord (c :: rest.takeWhile (!isBlank ·)) := by
      refine ⟨List.cons_ne_nil c _, ?_⟩
      rw [List.forall_mem_cons]
      refine ⟨ends.first c rfl, ?_⟩
      intro d member
      simpa using List.mem_takeWhile_imp member
    have whole : (c :: rest.takeWhile (!isBlank ·)) ++ rest.dropWhile (!isBlank ·) = c :: rest := by
      rw [List.cons_append, List.takeWhile_append_dropWhile]
    have suffix : rest.dropWhile (!isBlank ·) <:+ c :: rest :=
      (List.dropWhile_suffix _).trans (List.suffix_cons c rest)
    refine ⟨_, isWord, ?_⟩
    by_cases alone : rest.dropWhile (!isBlank ·) = []
    · rw [alone, List.append_nil] at whole
      exact .inl whole.symm
    · have blank : ∀ d ∈ (rest.dropWhile (!isBlank ·)).head?, isBlank d = true := by
        intro d head
        have stopped := List.head?_dropWhile_not (!isBlank ·) rest
        rw [Option.mem_def.mp head] at stopped
        simpa using stopped
      obtain ⟨gap, later, isGap, follows, laterEnds, cut⟩ :=
        split_gap alone blank (solid_of_suffix suffix ends.last)
      rw [cut] at whole
      exact .inr ⟨gap, later, isGap, follows, laterEnds, whole.symm⟩

end Spacing

theorem code_of_digit {c : Char} (digit : c.isDigit = true) : c.toNat ∈ List.range' 48 10 := by
  simp only [Char.isDigit, Bool.and_eq_true, decide_eq_true_eq, ge_iff_le, UInt32.le_iff_toNat_le]
    at digit
  have low : 48 ≤ c.toNat := digit.1
  have high : c.toNat ≤ 57 := digit.2
  rw [List.mem_range'_1]
  omega

theorem digit_is_solid {c : Char} (digit : c.isDigit = true) : isBlank c = false := by
  rw [Bool.eq_false_iff]
  intro blank
  have outside : blankCodes.all (!(List.range' 48 10).contains ·) = true := by rfl
  have apart := List.all_eq_true.mp outside c.toNat (code_of_blank blank)
  rw [List.contains_iff_mem.mpr (code_of_digit digit)] at apart
  cases apart

end DialogueScript.Text
