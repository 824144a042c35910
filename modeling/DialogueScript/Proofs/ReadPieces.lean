import DialogueScript.Pattern.Reader
import DialogueScript.Proofs.Runs

/- What reading a pattern can come to. A text that is read falls into stretches, and each of them
   spells one piece or none. Facts about the pieces of a pattern are proved by cases on how they are
   spelled, and need not open the reader again. -/
namespace DialogueScript.Pattern

/-- The stretches of a text that are read in one step, and the piece that they spell. -/
inductive Spells : List Char → Option Piece → Prop where
  | blank {c : Char} (blank : Text.isBlank c = true) : Spells [c] none
  | word {text : List Char} (inside : ∀ c ∈ text, isBoundary c = false)
      (left : bareWord text ≠ []) : Spells text (some (.word (bareWord text)))
  | punctuation {text : List Char} (inside : ∀ c ∈ text, isBoundary c = false)
      (gone : bareWord text = []) : Spells text none
  | concept {name : List Char} (named : name ≠ [])
      (inName : ∀ c ∈ name, isNameCharacter c = true) :
      Spells ('~' :: name) (some (.concept name))
  | choice {body : List Char} (inside : ')' ∉ body) (left : readAlternatives body ≠ []) :
      Spells ('(' :: body ++ [')']) (some (.choice (readAlternatives body)))
  | optional {body : List Char} (inside : ']' ∉ body) (left : readAlternatives body ≠ []) :
      Spells ('[' :: body ++ [']']) (some (.optional (readAlternatives body)))
  | anyText : Spells ['*'] (some .anyText)
  | exactly {count : List Char} {n : Nat} (counts : readCount? count = some n) (positive : n ≠ 0) :
      Spells ('*' :: count) (some (.exactly n))
  | upTo {count : List Char} {n : Nat} (counts : readCount? count = some n) :
      Spells ('*' :: '~' :: count) (some (.upTo n))
  | between {body : List Char} {least most : Nat} (inside : ')' ∉ body)
      (range : readRange? body = some (least, most)) (ordered : least ≤ most) :
      Spells ('*' :: '(' :: body ++ [')']) (some (.between least most))

inductive ReadsAs : List Char → List Piece → Prop where
  | nil : ReadsAs [] []
  | cons {taken rest : List Char} {piece : Option Piece} {pieces : List Piece}
      (first : Spells taken piece) (later : ReadsAs rest pieces) :
      ReadsAs (taken ++ rest) (piece.toList ++ pieces)

theorem count_is_digits {count : List Char} {n : Nat} (counts : readCount? count = some n) :
    ∀ c ∈ count, c.isDigit = true := by
  simp only [readCount?] at counts
  split at counts
  · simp at counts
  · rename_i digits
    simp only [Bool.or_eq_true, not_or, Bool.not_eq_true, Bool.not_eq_false'] at digits
    exact List.all_eq_true.mp digits.2

theorem split_at_close {close : Char} {rest : List Char}
    (found : (rest.takeWhile (· != close)).length ≠ rest.length) :
    close ∉ rest.takeWhile (· != close) ∧
      ∃ after, rest = rest.takeWhile (· != close) ++ close :: after := by
  have whole := List.takeWhile_append_dropWhile (p := (· != close)) (l := rest)
  constructor
  · intro member
    simpa using List.mem_takeWhile_imp member
  · cases after : rest.dropWhile (· != close) with
    | nil =>
      rw [after, List.append_nil] at whole
      exact absurd (congrArg List.length whole) found
    | cons c after' =>
      have head := List.head?_dropWhile_not (· != close) rest
      rw [after] at head whole
      obtain rfl : c = close := by simpa using head
      exact ⟨after', whole.symm⟩

def SpellsAt (c : Char) (rest : List Char) (reading : Reading) : Prop :=
  ∃ taken after, rest = taken ++ after ∧ reading.taken = taken.length ∧
    Spells (c :: taken) reading.piece

theorem readGroup_spells {bracket close : Char} {make : List (List (List Char)) → Piece}
    {rest : List Char} {reading : Reading} (ok : readGroup bracket close make rest = .ok reading)
    (spells : ∀ {body : List Char}, close ∉ body → readAlternatives body ≠ [] →
      Spells (bracket :: body ++ [close]) (some (make (readAlternatives body)))) :
    SpellsAt bracket rest reading := by
  simp only [readGroup] at ok
  split at ok
  · simp at ok
  · rename_i found
    split at ok
    · simp at ok
    · rename_i left
      simp only [Except.ok.injEq] at ok
      subst ok
      obtain ⟨inside, after, whole⟩ := split_at_close found
      refine ⟨rest.takeWhile (· != close) ++ [close], after, by simpa using whole, by simp, ?_⟩
      exact spells inside (by simpa using left)

theorem readWildcard_spells {rest : List Char} {reading : Reading}
    (ok : readWildcard rest = .ok reading) : SpellsAt '*' rest reading := by
  unfold readWildcard at ok
  split at ok
  · simp only [Except.ok.injEq] at ok
    subst ok
    exact ⟨[], [], rfl, rfl, .anyText⟩
  · rename_i rest
    dsimp only at ok
    split at ok
    · rename_i n counts
      simp only [Except.ok.injEq] at ok
      subst ok
      refine ⟨'~' :: rest.takeWhile Char.isDigit, rest.dropWhile Char.isDigit, ?_, rfl,
        .upTo counts⟩
      rw [List.cons_append, List.takeWhile_append_dropWhile]
    · simp at ok
  · rename_i rest
    dsimp only at ok
    split at ok
    · simp at ok
    · rename_i found
      obtain ⟨inside, after, whole⟩ := split_at_close found
      split at ok
      · simp only [Except.ok.injEq] at ok
        subst ok
        exact ⟨[], _, rfl, rfl, .anyText⟩
      · rename_i least most range
        split at ok
        · rename_i ordered
          simp only [Except.ok.injEq] at ok
          subst ok
          refine ⟨'(' :: rest.takeWhile (· != ')') ++ [')'], after, ?_, by simp, ?_⟩
          · simpa using whole
          · exact .between inside range ordered
        · simp at ok
  · rename_i c rest _ _
    dsimp only at ok
    split at ok
    · split at ok
      · simp at ok
      · rename_i n positive counts
        simp only [Except.ok.injEq] at ok
        subst ok
        refine ⟨(c :: rest).takeWhile Char.isDigit, (c :: rest).dropWhile Char.isDigit, ?_, rfl,
          .exactly counts positive⟩
        rw [List.takeWhile_append_dropWhile]
      · simp at ok
    · simp only [Except.ok.injEq] at ok
      subst ok
      exact ⟨[], _, rfl, rfl, .anyText⟩

theorem readPiece_spells {c : Char} {rest : List Char} {reading : Reading}
    (ok : readPiece c rest = .ok reading) : SpellsAt c rest reading := by
  simp only [readPiece] at ok
  split at ok
  · rename_i blank
    simp only [Except.ok.injEq] at ok
    subst ok
    exact ⟨[], rest, rfl, rfl, .blank blank⟩
  · rename_i solid
    split at ok
    · exact readWildcard_spells ok
    · exact readGroup_spells ok .choice
    · exact readGroup_spells ok .optional
    · simp at ok
    · simp at ok
    · simp at ok
    · split at ok
      · simp at ok
      · rename_i named
        simp only [Except.ok.injEq] at ok
        subst ok
        refine ⟨rest.takeWhile isNameCharacter, rest.dropWhile isNameCharacter,
          List.takeWhile_append_dropWhile.symm, rfl, .concept (by simpa using named) ?_⟩
        exact fun c member => List.mem_takeWhile_imp member
    · simp only [Except.ok.injEq] at ok
      subst ok
      have inside : ∀ d ∈ c :: rest.takeWhile (!isBoundary ·), isBoundary d = false := by
        simp only [List.mem_cons, forall_eq_or_imp]
        refine ⟨by simp_all [isBoundary], fun d member => ?_⟩
        simpa using List.mem_takeWhile_imp member
      refine ⟨rest.takeWhile (!isBoundary ·), rest.dropWhile (!isBoundary ·),
        List.takeWhile_append_dropWhile.symm, rfl, ?_⟩
      split
      · rename_i gone
        exact .punctuation inside (by simpa using gone)
      · rename_i left
        exact .word inside (by simpa using left)

theorem readPiece_blank {c : Char} (blank : Text.isBlank c = true) (rest : List Char) :
    readPiece c rest = .ok ⟨none, 0⟩ := by
  unfold readPiece
  rw [if_pos blank]

theorem readPiece_word {c : Char} (inside : isBoundary c = false) (rest : List Char) :
    readPiece c rest =
      .ok ⟨if (bareWord (c :: rest.takeWhile (!isBoundary ·))).isEmpty then none
        else some (.word (bareWord (c :: rest.takeWhile (!isBoundary ·)))),
        (rest.takeWhile (!isBoundary ·)).length⟩ := by
  simp only [isBoundary, Bool.or_eq_false_iff, List.contains_eq_mem, List.mem_cons,
    List.not_mem_nil, or_false, decide_eq_false_iff_not, not_or] at inside
  unfold readPiece
  rw [inside.1, if_neg Bool.false_ne_true]
  split <;> simp_all

def bytes (text : List Char) : Nat := (String.ofList text).utf8ByteSize

@[simp]
theorem bytes_nil : bytes [] = 0 := rfl

@[simp]
theorem bytes_cons (c : Char) (rest : List Char) : bytes (c :: rest) = c.utf8Size + bytes rest := by
  simp [bytes]

/-- Reading goes on behind a piece as it would from there. -/
theorem readFrom_behind (offset pending : Nat) (text : List Char) :
    readFrom offset pending text =
      readFrom (offset + bytes (text.take pending)) 0 (text.drop pending) := by
  induction pending generalizing offset text with
  | zero => rfl
  | succ pending ih =>
    cases text with
    | nil => rfl
    | cons c rest =>
      rw [List.take_succ_cons, List.drop_succ_cons, bytes_cons, ← Nat.add_assoc]
      exact ih (offset + c.utf8Size) rest

theorem grammar_of_read {text : String} {pieces : List Piece}
    (ok : read text.toList = .ok pieces) : grammar text = .ok (String.ofList (render pieces)) := by
  rw [grammar, ok]

theorem readFrom_readsAs {offset pending : Nat} {text : List Char} {pieces : List Piece}
    (ok : readFrom offset pending text = .ok pieces) : ReadsAs (text.drop pending) pieces := by
  induction text generalizing offset pending pieces with
  | nil =>
    simp only [readFrom, Except.ok.injEq] at ok
    subst ok
    simpa using ReadsAs.nil
  | cons c rest ih =>
    cases pending with
    | succ pending => exact ih ok
    | zero =>
      simp only [readFrom] at ok
      split at ok
      · simp at ok
      · rename_i reading head
        split at ok
        · simp at ok
        · rename_i later tail
          simp only [Except.ok.injEq] at ok
          subst ok
          obtain ⟨taken, after, rfl, length, spells⟩ := readPiece_spells head
          have others := ih tail
          rw [length, List.drop_left] at others
          exact .cons spells others

theorem read_readsAs {text : List Char} {pieces : List Piece} (ok : read text = .ok pieces) :
    ReadsAs text pieces := readFrom_readsAs ok

theorem ReadsAs.forall {fact : Piece → Prop} {text : List Char} {pieces : List Piece}
    (reads : ReadsAs text pieces)
    (each : ∀ {taken : List Char} {piece : Piece}, Spells taken (some piece) → fact piece) :
    ∀ piece ∈ pieces, fact piece := by
  induction reads with
  | nil => simp
  | @cons taken rest first others spells later ih =>
    intro piece member
    rw [List.mem_append, Option.mem_toList] at member
    rcases member with here | there
    · exact each (here ▸ spells)
    · exact ih piece there

end DialogueScript.Pattern
