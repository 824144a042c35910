import DialogueScript.Text.Blank
import DialogueScript.Text.WordCharacter
import Mathlib.Data.List.DropRight

/- Trimming, words and lines: what the cuts leave, and which texts they leave as they are. -/
namespace DialogueScript.Text

theorem covers_span (code first stop : Nat) (rest : List Nat) :
    covers code (first :: stop :: rest) =
      (decide (first ≤ code) && (decide (code < stop) || covers code rest)) := by
  rw [covers, covers]
  by_cases below : code < first
  · simp [below, Nat.not_le.mpr below]
  · by_cases inside : code < stop
    · simp [below, inside, Nat.not_lt.mp below]
    · simp [below, inside, Nat.not_lt.mp below]

def blankCodes : List Nat :=
  List.range' 9 5 ++ List.range' 0x2000 11 ++
    [0x20, 0x85, 0xA0, 0x1680, 0x2028, 0x2029, 0x202F, 0x205F, 0x3000]

theorem code_of_blank {c : Char} (blank : isBlank c = true) : c.toNat ∈ blankCodes := by
  have nothing : covers c.toNat [] = false := rfl
  unfold isBlank blankBoundaries at blank
  simp only [covers_span, nothing, Bool.or_false, Bool.and_eq_true, Bool.or_eq_true,
    decide_eq_true_eq] at blank
  unfold blankCodes
  simp only [List.mem_append, List.mem_range'_1, List.mem_cons, List.not_mem_nil, or_false]
  omega

theorem blank_not_covered {boundaries : List Nat}
    (none : blankCodes.all (fun code => !covers code boundaries) = true) {c : Char}
    (blank : isBlank c = true) : covers c.toNat boundaries = false := by
  simpa using List.all_eq_true.mp none c.toNat (code_of_blank blank)

set_option maxRecDepth 4000 in
theorem blank_is_no_word_character {c : Char} (blank : isBlank c = true) :
    isWordCharacter c = false := blank_not_covered (by rfl) blank

section Trimming

variable {text : List Char}

/-- The first and the last character of a text, if there are any, are no blanks. -/
structure SolidEnds (text : List Char) : Prop where
  first : ∀ c ∈ text.head?, isBlank c = false
  last : ∀ c ∈ text.getLast?, isBlank c = false

theorem trimStart_suffix (text : List Char) : trimStart text <:+ text := List.dropWhile_suffix _

theorem trimEnd_isPrefix (text : List Char) : trimEnd text <+: text := List.rdropWhile_prefix _ _

theorem trim_subset (text : List Char) : trim text ⊆ text := by
  intro c member
  exact (trimStart_suffix text).subset ((trimEnd_isPrefix _).subset member)

theorem trimStart_of_solid (first : ∀ c ∈ text.head?, isBlank c = false) :
    trimStart text = text := by
  cases text with
  | nil => rfl
  | cons c rest => exact List.dropWhile_cons_of_neg (by simp [first c rfl])

theorem trimEnd_of_solid (last : ∀ c ∈ text.getLast?, isBlank c = false) :
    trimEnd text = text := by
  refine List.rdropWhile_eq_self_iff.mpr ?_
  intro nonempty
  rw [last _ (List.getLast?_eq_some_getLast nonempty)]
  exact Bool.false_ne_true

theorem trim_solid (text : List Char) : SolidEnds (trim text) := by
  constructor
  · intro c first
    -- What is left at the end of the cut begins as what was left at the start of it.
    unfold trim at first
    obtain ⟨rest, whole⟩ := trimEnd_isPrefix (trimStart text)
    have head : (text.dropWhile isBlank).head? = some c := by
      change (trimStart text).head? = some c
      rw [← whole, List.head?_append, Option.mem_def.mp first]
      rfl
    have solid := List.head?_dropWhile_not isBlank text
    rw [head] at solid
    exact solid
  · intro c last
    have nonempty : trim text ≠ [] := by
      intro nothing
      rw [nothing] at last
      cases last
    have solid : ¬ isBlank ((trim text).getLast nonempty) = true :=
      List.rdropWhile_last_not isBlank (trimStart text) nonempty
    rw [List.getLast?_eq_some_getLast nonempty] at last
    cases last
    simpa using solid

theorem trim_eq_self_iff : trim text = text ↔ SolidEnds text := by
  constructor
  · intro same
    exact same ▸ trim_solid text
  · intro solid
    unfold trim
    rw [trimStart_of_solid solid.first, trimEnd_of_solid solid.last]

theorem trim_trim (text : List Char) : trim (trim text) = trim text :=
  trim_eq_self_iff.mpr (trim_solid text)

theorem trim_after_space (solid : SolidEnds text) : trim (' ' :: text) = text := by
  have start : trimStart (' ' :: text) = trimStart text := rfl
  unfold trim
  rw [start, trimStart_of_solid solid.first, trimEnd_of_solid solid.last]

theorem trim_ne_nil {c : Char} (member : c ∈ text) (solid : isBlank c = false) :
    trim text ≠ [] := by
  intro nothing
  have blank : ∀ d ∈ trimStart text, isBlank d = true := List.rdropWhile_eq_nil_iff.mp nothing
  rw [← @List.takeWhile_append_dropWhile _ isBlank text, List.mem_append] at member
  rcases member with before | after
  · rw [List.mem_takeWhile_imp before] at solid
    cases solid
  · rw [blank c after] at solid
    cases solid

theorem solid_of_suffix {whole : List Char} (suffix : text <:+ whole)
    (last : ∀ c ∈ whole.getLast?, isBlank c = false) : ∀ c ∈ text.getLast?, isBlank c = false := by
  obtain ⟨before, rfl⟩ := suffix
  intro c ends
  apply last c
  rw [List.getLast?_append, Option.mem_def.mp ends]
  rfl

theorem solid_or {first second : Option Char} (left : ∀ c ∈ first, isBlank c = false)
    (right : ∀ c ∈ second, isBlank c = false) : ∀ c ∈ first.or second, isBlank c = false := by
  cases first with
  | none => simpa using right
  | some c => simpa using left

theorem SolidEnds.append {before after : List Char} (left : SolidEnds before)
    (right : SolidEnds after) : SolidEnds (before ++ after) := by
  constructor
  · rw [List.head?_append]
    exact solid_or left.first right.first
  · rw [List.getLast?_append]
    exact solid_or right.last left.last

end Trimming

section Words

variable {text part : List Char}

theorem split_part {α : Type} {test : α → Bool} {text part : List α}
    (isPart : part ∈ text.splitOnP test) : ∀ c ∈ part, c ∈ text ∧ test c = false := by
  induction text generalizing part with
  | nil =>
    simp only [List.splitOnP_nil, List.mem_singleton] at isPart
    simp [isPart]
  | cons d rest ih =>
    have later : ∀ {part : List α}, part ∈ rest.splitOnP test →
        ∀ c ∈ part, c ∈ d :: rest ∧ test c = false := by
      intro part isPart c member
      exact ⟨List.mem_cons_of_mem d (ih isPart c member).1, (ih isPart c member).2⟩
    rw [List.splitOnP_cons_eq_if_modifyHead] at isPart
    split at isPart
    · rcases List.mem_cons.mp isPart with rfl | isPart
      · simp
      · exact later isPart
    · rename_i inside
      cases parts : rest.splitOnP test with
      | nil => exact absurd parts (List.splitOnP_ne_nil test rest)
      | cons head tail =>
        rw [parts, List.modifyHead_cons, List.mem_cons] at isPart
        rw [parts] at later
        rcases isPart with rfl | isPart
        · intro c member
          rcases List.mem_cons.mp member with rfl | member
          · exact ⟨List.mem_cons_self, by simpa using inside⟩
          · exact later List.mem_cons_self c member
        · exact later (List.mem_cons_of_mem head isPart)

theorem word_spec {word : List Char} (isWord : word ∈ words text) :
    word ≠ [] ∧ ∀ c ∈ word, c ∈ text ∧ isBlank c = false := by
  unfold words at isWord
  rw [List.mem_filter] at isWord
  exact ⟨by simpa using isWord.2, split_part isWord.1⟩

theorem not_mem_intercalate {c : Char} {separator : List Char} {texts : List (List Char)}
    (apart : c ∉ separator) (each : ∀ text ∈ texts, c ∉ text) :
    c ∉ separator.intercalate texts := by
  induction texts with
  | nil => simp
  | cons text others ih =>
    simp only [List.mem_cons, forall_eq_or_imp] at each
    cases others with
    | nil => simpa using each.1
    | cons next others =>
      simp only [List.intercalate_cons_cons, List.mem_append, not_or]
      exact ⟨⟨each.1, apart⟩, ih each.2⟩

theorem words_of_blank {c : Char} (blank : isBlank c = true) (rest : List Char) :
    words (c :: rest) = words rest := by
  unfold words
  rw [List.splitOnP_cons_eq_if_modifyHead, if_pos blank]
  rfl

theorem words_of_word {word rest : List Char} (nonempty : word ≠ [])
    (solid : ∀ c ∈ word, isBlank c = false) (ends : ∀ c ∈ rest.head?, isBlank c = true) :
    words (word ++ rest) = word :: words rest := by
  cases rest with
  | nil =>
    unfold words
    rw [List.append_nil, List.splitOnP_eq_singleton solid]
    simp [nonempty]
  | cons c rest =>
    have blank := ends c rfl
    rw [words_of_blank blank]
    unfold words
    rw [List.splitOnP_append_cons_of_forall_mem solid c blank, List.filter_cons]
    simp [nonempty]

theorem words_of_solid {c : Char} (solid : isBlank c = false) (rest : List Char) :
    words (c :: rest) =
      (c :: rest.takeWhile (!isBlank ·)) :: words (rest.dropWhile (!isBlank ·)) := by
  have whole : c :: rest = (c :: rest.takeWhile (!isBlank ·)) ++ rest.dropWhile (!isBlank ·) := by
    rw [List.cons_append, List.takeWhile_append_dropWhile]
  rw [whole]
  apply words_of_word (List.cons_ne_nil c _)
  · rw [List.forall_mem_cons]
    refine ⟨solid, ?_⟩
    intro d member
    simpa using List.mem_takeWhile_imp member
  · intro d starts
    have ends := List.head?_dropWhile_not (!isBlank ·) rest
    rw [Option.mem_def.mp starts] at ends
    simpa using ends

theorem words_at_blank {c : Char} (blank : isBlank c = true) (before after : List Char) :
    words (before ++ c :: after) = words before ++ words after := by
  unfold words
  rw [List.splitOnP_append_cons _ _ blank, List.filter_append]

theorem words_before_blanks {gap : List Char} (blank : ∀ c ∈ gap, isBlank c = true)
    (text : List Char) : words (text ++ gap) = words text := by
  induction gap generalizing text with
  | nil => rw [List.append_nil]
  | cons c rest ih =>
    rw [List.forall_mem_cons] at blank
    have nothing : words rest = [] := ih blank.2 []
    rw [words_at_blank blank.1, nothing, List.append_nil]

theorem unwords_cons_cons (word next : List Char) (others : List (List Char)) :
    unwords (word :: next :: others) = word ++ ' ' :: unwords (next :: others) := by
  simp [unwords, List.intercalate_cons_cons]

theorem words_unwords {ws : List (List Char)}
    (each : ∀ word ∈ ws, word ≠ [] ∧ ∀ c ∈ word, isBlank c = false) : words (unwords ws) = ws := by
  induction ws with
  | nil => rfl
  | cons word rest ih =>
    simp only [List.mem_cons, forall_eq_or_imp] at each
    obtain ⟨⟨nonempty, solid⟩, others⟩ := each
    cases rest with
    | nil =>
      have whole : words (word ++ []) = word :: words [] := words_of_word nonempty solid (by simp)
      rw [List.append_nil] at whole
      rw [unwords, List.intercalate_singleton, whole]
      rfl
    | cons next later =>
      have space : isBlank ' ' = true := rfl
      rw [unwords_cons_cons, words_of_word nonempty solid (by simp [space]), words_of_blank space,
        ih others]

end Words

section Lines

theorem line_spec {text line : List Char} (isLine : line ∈ lines text) :
    ∀ c ∈ line, c ∈ text ∧ c ≠ '\n' := by
  have part : ∀ part ∈ text.splitOn '\n', ∀ c ∈ part, c ∈ text ∧ c ≠ '\n' := by
    intro part isPart c member
    rw [List.splitOn_eq_splitOnP] at isPart
    simpa using split_part isPart c member
  unfold lines at isLine
  rcases List.mem_append.mp isLine with ended | last
  · obtain ⟨whole, among, rfl⟩ := List.mem_map.mp ended
    intro c member
    apply part whole (List.dropLast_subset _ among)
    unfold dropReturn at member
    split at member
    · exact List.dropLast_subset _ member
    · exact member
  · have among := (List.mem_filter.mp last).1
    exact part line (List.mem_of_getLast? (Option.mem_toList.mp among))

theorem line_in_one {text line : List Char} (isLine : line ∈ lines text) : '\n' ∉ line :=
  fun feed => (line_spec isLine _ feed).2 rfl

theorem dropReturn_of_solid {line : List Char} (solid : SolidEnds line) :
    dropReturn line = line := by
  unfold dropReturn
  split
  · rename_i ends
    exact absurd (solid.last _ ends) (by decide)
  · rfl

theorem lines_of_ended {rows : List (List Char)} (solid : ∀ row ∈ rows, SolidEnds row)
    (one : ∀ row ∈ rows, '\n' ∉ row) : lines (rows.flatMap (· ++ ['\n'])) = rows := by
  have cut : (rows.flatMap (· ++ ['\n'])).splitOn '\n' = rows ++ [[]] := by
    induction rows with
    | nil => rfl
    | cons row rest ih =>
      simp only [List.mem_cons, forall_eq_or_imp] at one solid
      rw [List.flatMap_cons, List.append_assoc, List.singleton_append,
        List.splitOn_append_cons_self_of_not_mem one.1, ih solid.2 one.2]
      rfl
  unfold lines
  rw [cut]
  have kept : rows.map dropReturn = rows := by
    calc rows.map dropReturn
      _ = rows.map id :=
        List.map_congr_left fun row member => dropReturn_of_solid (solid row member)
      _ = rows := List.map_id rows
  simp [kept]

end Lines

end DialogueScript.Text
