import DialogueScript.Json.Reader
import DialogueScript.Json.Writer
import DialogueScript.Proofs.Runs

/- Reading JSON that was written. What the reader makes of a text is put together from what it makes
   of the parts, whatever blanks stand between them; both ways of writing are cases of this. -/
namespace DialogueScript.Json

/- Strings. -/

/-- How a character of a string is read back: a control character without a letter of its own comes
as a code unit, everything else as itself. -/
def symbolOf (c : Char) : Symbol :=
  if c.toNat < 32 ∧ c.toNat ∉ [8, 9, 10, 12, 13] then .unit c.toNat else .char c

theorem symbolOf_short {c : Char} (short : c.toNat ∈ [8, 9, 10, 12, 13]) :
    symbolOf c = .char c := by
  simp [symbolOf, short]

theorem symbolOf_plain {c : Char} (plain : 32 ≤ c.toNat) : symbolOf c = .char c := by
  simp [symbolOf, Nat.not_lt.mpr plain]

theorem hexValue_digitChar : ∀ d < 16, hexValue? (Nat.digitChar d) = some d := by decide

theorem codeUnit_of_control {code : Nat} (control : code < 32) :
    codeUnit? '0' '0' (Nat.digitChar (code / 16)) (Nat.digitChar (code % 16)) = some code := by
  have zero : hexValue? '0' = some 0 := by decide
  have high := hexValue_digitChar (code / 16) (by omega)
  have low := hexValue_digitChar (code % 16) (by omega)
  simp only [codeUnit?, zero, high, low, Option.pure_def, Option.bind_eq_bind, Option.bind_some,
    Option.some.injEq]
  omega

theorem readSymbols_short {letter c : Char} (short : shortEscape? letter = some c)
    (rest : List Char) :
    readSymbols ('\\' :: letter :: rest) =
      (readSymbols rest).map fun read => (.char c :: read.1, read.2) := by
  have notUnit : letter ≠ 'u' := by
    rintro rfl
    simp [shortEscape?] at short
  rw [readSymbols]
  · simp only [short, Option.bind_eq_bind, Option.bind_some, Option.pure_def]
    cases readSymbols rest <;> rfl
  · intro _ _ _ _ _ same
    exact absurd same notUnit

theorem readSymbols_escapeChar (c : Char) (rest : List Char) :
    readSymbols (escapeChar c ++ rest) =
      (readSymbols rest).map fun read => (symbolOf c :: read.1, read.2) := by
  unfold escapeChar
  split
  · subst c
    exact readSymbols_short rfl rest
  split
  · subst c
    exact readSymbols_short rfl rest
  split
  · rename_i code
    rw [symbolOf_short (by simp [code]), ← Char.ofNat_toNat c, code]
    exact readSymbols_short rfl rest
  split
  · rename_i code
    rw [symbolOf_short (by simp [code]), ← Char.ofNat_toNat c, code]
    exact readSymbols_short rfl rest
  split
  · subst c
    exact readSymbols_short rfl rest
  split
  · subst c
    exact readSymbols_short rfl rest
  split
  · subst c
    exact readSymbols_short rfl rest
  split
  · rename_i lineFeed carriageReturn tab control
    have code := codeUnit_of_control control
    have unit : symbolOf c = .unit c.toNat := by
      have other : ∀ d : Char, c ≠ d → c.toNat ≠ d.toNat :=
        fun d different same => different (Char.toNat_inj.mp same)
      have notTab := other '\t' tab
      have notFeed := other '\n' lineFeed
      have notReturn := other '\r' carriageReturn
      simp_all [symbolOf]
    simp only [List.cons_append, List.nil_append, readSymbols, code, unit, Option.bind_eq_bind,
      Option.bind_some, Option.pure_def]
    cases readSymbols rest <;> rfl
  · rename_i quote backslash _ _ _ _ _ visible
    rw [symbolOf_plain (by omega), List.singleton_append, readSymbols]
    · simp only [visible, decide_false, Bool.false_or, beq_iff_eq, backslash, ↓reduceIte,
        Option.bind_eq_bind, Option.pure_def]
      cases readSymbols rest <;> rfl
    · exact quote
    · intro _ _ _ _ _ same
      exact absurd same backslash
    · intro _ _ same
      exact absurd same backslash

theorem joinSymbols_symbolOf (c : Char) (symbols : List Symbol) :
    joinSymbols? (symbolOf c :: symbols) = (joinSymbols? symbols).map (c :: ·) := by
  unfold symbolOf
  split
  · rename_i control
    have small := control.1
    have notTrailing : isTrailing c.toNat = false := by
      simp only [isTrailing, Bool.and_eq_false_imp, decide_eq_true_eq, decide_eq_false_iff_not]
      omega
    have notLeading : isLeading c.toNat = false := by
      simp only [isLeading, Bool.and_eq_false_imp, decide_eq_true_eq, decide_eq_false_iff_not]
      omega
    rw [joinSymbols?.eq_def]
    simp [notTrailing, notLeading]
  · rw [joinSymbols?]

theorem readSymbols_escaped (text rest : List Char) :
    readSymbols (text.flatMap escapeChar ++ '"' :: rest) = some (text.map symbolOf, rest) := by
  induction text with
  | nil => simp [readSymbols]
  | cons c text ih =>
    rw [List.flatMap_cons, List.append_assoc, readSymbols_escapeChar, ih]
    rfl

theorem joinSymbols_map (text : List Char) : joinSymbols? (text.map symbolOf) = some text := by
  induction text with
  | nil => rfl
  | cons c text ih => rw [List.map_cons, joinSymbols_symbolOf, ih, Option.map_some]

theorem readString_escaped (text : String) (rest : List Char) :
    readString (text.toList.flatMap escapeChar ++ '"' :: rest) = some (text, rest) := by
  simp [readString, readSymbols_escaped, joinSymbols_map]

/- Numbers. -/

/-- A number that ends before this text would not go on in it. -/
def EndsNumber (rest : List Char) : Prop :=
  ∀ c, rest.head? = some c → c.isDigit = false ∧ c ≠ '.' ∧ c ≠ 'e' ∧ c ≠ 'E'

theorem endsNumber_nil : EndsNumber [] := by simp [EndsNumber]

theorem endsNumber_cons {c : Char} (rest : List Char) (other : c.isDigit = false)
    (point : c ≠ '.') (small : c ≠ 'e') (large : c ≠ 'E') : EndsNumber (c :: rest) := by
  intro d first
  simp only [List.head?_cons, Option.some.injEq] at first
  subst first
  exact ⟨other, point, small, large⟩

theorem readFraction_absent {rest : List Char} (ends : EndsNumber rest) :
    readFraction rest = some ([], rest) := by
  unfold readFraction
  split
  · exact absurd rfl (ends _ rfl).2.1
  · rfl

theorem readExponent_absent {rest : List Char} (ends : EndsNumber rest) :
    readExponent rest = some (0, rest) := by
  cases rest with
  | nil => rfl
  | cons c rest =>
    obtain ⟨_, _, small, large⟩ := ends c rfl
    simp [readExponent, small, large]

theorem digitsValue_toDigits (n : Nat) : digitsValue (Nat.toDigits 10 n) = n := by
  have value := @Nat.ofDigitChars_ten_toDigits n
  rw [Nat.ofDigitChars_eq_foldl] at value
  exact value

theorem zero_of_leading_zero {n : Nat} (leading : (Nat.toDigits 10 n).head? = some '0') :
    n = 0 := by
  induction n using Nat.strongRecOn with
  | _ n ih =>
    by_cases small : n < 10
    · rw [Nat.toDigits_of_lt_base small] at leading
      simpa using leading
    · rw [Nat.toDigits_of_base_le (by decide) (by omega)] at leading
      obtain ⟨first, others, shape⟩ := List.exists_cons_of_ne_nil (@Nat.toDigits_ne_nil (n / 10) 10)
      have tenth : (Nat.toDigits 10 (n / 10)).head? = some '0' := by
        rw [shape] at leading ⊢
        exact leading
      have := ih (n / 10) (by omega) tenth
      omega

theorem le_digits_value (digits : List Char) (start : Nat) :
    start ≤ digits.foldl (fun value c => 10 * value + digitValue c) start := by
  induction digits generalizing start with
  | nil => exact Nat.le_refl start
  | cons c digits ih =>
    have further := ih (10 * start + digitValue c)
    simp only [List.foldl_cons]
    omega

theorem takeDigits_all {digits : List Char} {start : Nat}
    (small : digits.foldl (fun value c => 10 * value + digitValue c) start < significandLimit) :
    takeDigits start digits =
      (digits.foldl (fun value c => 10 * value + digitValue c) start, []) := by
  induction digits generalizing start with
  | nil => rfl
  | cons c digits ih =>
    simp only [List.foldl_cons] at small ⊢
    have fits : 10 * start + digitValue c < significandLimit :=
      Nat.lt_of_le_of_lt (le_digits_value digits _) small
    rw [takeDigits]
    simp only [fits, ↓reduceIte]
    exact ih small

theorem roundToDouble_small {n : Nat} (small : n < Nat.pow 2 53) : roundToDouble n = n := by
  have unit : n.log2 - 52 = 0 := by
    by_cases zero : n = 0
    · simp [zero]
    · have := (Nat.log2_lt zero).mpr small
      omega
  simp [roundToDouble, unit, Nat.mod_one]

theorem power_gap {a b c : Nat} (first : a ≤ b) (second : b < c) :
    Nat.pow 2 a ≤ Nat.pow 2 c - Nat.pow 2 b := by
  have low : 2 ^ a ≤ 2 ^ b := Nat.pow_le_pow_right (by decide) first
  have high : 2 ^ (b + 1) ≤ 2 ^ c := Nat.pow_le_pow_right (by decide) second
  rw [Nat.pow_succ] at high
  simp only [Nat.pow_eq]
  omega

theorem infinity_beyond_32_bits : Nat.pow 2 32 ≤ infinityBound := by
  unfold infinityBound
  apply power_gap
  · decide
  · decide

theorem small_is_finite {n : Nat} (small : n < UInt32.size) : Scaled.isFinite ⟨n, 0⟩ = true := by
  have same : roundToDouble n = n :=
    roundToDouble_small (Nat.lt_of_lt_of_le small (by decide))
  have one : roundToDouble (Nat.pow 10 0) = 1 := by decide
  have finite : n < infinityBound := Nat.lt_of_lt_of_le small infinity_beyond_32_bits
  have whole : Scaled.isFinite ⟨n, 0⟩ = (n == 0 || (decide (0 ≤ powerLimit) &&
      decide (roundToDouble n * roundToDouble (Nat.pow 10 0) < infinityBound))) := rfl
  rw [whole, same, one, Nat.mul_one]
  simp [finite]

theorem readUnsigned_digits {n : Nat} (small : n < UInt32.size) {rest : List Char}
    (ends : EndsNumber rest) :
    readUnsigned (Nat.toDigits 10 n ++ rest) = some (⟨n, 0⟩, rest) := by
  have whole : (Nat.toDigits 10 n ++ rest).takeWhile Char.isDigit = Nat.toDigits 10 n :=
    (cut_at_run (fun _ member => Nat.isDigit_of_mem_toDigits (by decide) (by decide) member)
      fun c first => (ends c first).1).1
  have nonempty : (Nat.toDigits 10 n).isEmpty = false :=
    List.isEmpty_eq_false_iff.mpr Nat.toDigits_ne_nil
  have noZero : ((Nat.toDigits 10 n).head? == some '0' &&
      decide (1 < (Nat.toDigits 10 n).length)) = false := by
    by_cases leading : (Nat.toDigits 10 n).head? = some '0'
    · rw [zero_of_leading_zero leading]
      rfl
    · simp [leading]
  have value : takeDigits 0 (Nat.toDigits 10 n) = (n, []) := by
    have limit : digitsValue (Nat.toDigits 10 n) < significandLimit := by
      rw [digitsValue_toDigits]
      exact Nat.lt_of_lt_of_le small (by decide)
    rw [takeDigits_all limit]
    exact congrArg (·, []) (digitsValue_toDigits n)
  have scaled : Scaled.ofDigits (Nat.toDigits 10 n) [] 0 = ⟨n, 0⟩ := by
    simp [Scaled.ofDigits, value, takeDigits]
  simp only [readUnsigned, whole, nonempty, noZero, Bool.or_self, Bool.false_eq_true, ↓reduceIte,
    List.drop_left, readFraction_absent ends, readExponent_absent ends, scaled, Option.pure_def,
    Option.bind_eq_bind, Option.bind_some]

theorem digit_is_no_mark {c : Char} (digit : c.isDigit = true) :
    isSpace c = false ∧ c ∉ ['-', '"', '[', '\x7b', 'n', 't', 'f'] := by
  have apart : ∀ mark : Char, mark.isDigit = false → c ≠ mark := by
    rintro mark other rfl
    simp [digit] at other
  have blank := apart ' ' (by decide)
  have tab := apart '\t' (by decide)
  have feed := apart '\n' (by decide)
  have carriage := apart '\r' (by decide)
  constructor
  · simp [isSpace, blank, tab, feed, carriage]
  · intro member
    have each : ['-', '"', '[', '\x7b', 'n', 't', 'f'].all (!·.isDigit) = true := rfl
    have other := List.all_eq_true.mp each c member
    simp [digit] at other

theorem readNumber_digits {n : Nat} (small : n < UInt32.size) {rest : List Char}
    (ends : EndsNumber rest) :
    readNumber (Nat.toDigits 10 n ++ rest) = some (.number n.repr, rest) := by
  obtain ⟨first, others, shape⟩ := List.exists_cons_of_ne_nil (@Nat.toDigits_ne_nil n 10)
  have digit : first.isDigit = true :=
    Nat.isDigit_of_mem_toDigits (by decide) (by decide) (shape ▸ List.mem_cons_self)
  have unsigned : (Nat.toDigits 10 n ++ rest).head? ≠ some '-' := by
    rw [shape]
    intro minus
    simp only [List.cons_append, List.head?_cons, Option.some.injEq] at minus
    exact (digit_is_no_mark digit).2 (by simp [minus])
  have length : (Nat.toDigits 10 n ++ rest).length - rest.length = (Nat.toDigits 10 n).length := by
    simp
  have literal : String.ofList (Nat.toDigits 10 n) = n.repr := Nat.repr_eq_ofList_toDigits.symm
  simp only [readNumber, unsigned, ↓reduceIte, readUnsigned_digits small ends,
    small_is_finite small, length, List.take_left, literal, Option.pure_def, Option.bind_eq_bind,
    Option.bind_some]

/- Values. -/

def AllBlank (text : List Char) : Prop := ∀ c ∈ text, isSpace c = true

theorem skipSpace_blank {before : List Char} (blank : AllBlank before) (text : List Char) :
    skipSpace (before ++ text) = skipSpace text := by
  rw [skipSpace, List.dropWhile_append_of_pos blank]
  rfl

theorem skipSpace_solid {c : Char} (solid : isSpace c = false) (rest : List Char) :
    skipSpace (c :: rest) = c :: rest := by
  simp [skipSpace, solid]

theorem readValue_blank (fuel depth : Nat) {before : List Char} (blank : AllBlank before)
    (text : List Char) : readValue fuel depth (before ++ text) = readValue fuel depth text := by
  cases fuel with
  | zero => rfl
  | succ fuel => simp only [readValue, skipSpace_blank blank]

/-- A text is read as a value, whatever follows that would not go on with a number. Two steps a
character are enough. -/
def Reads (depth : Nat) (text : List Char) (value : Json) : Prop :=
  ∀ fuel rest, 2 * text.length ≤ fuel → EndsNumber rest →
    readValue fuel depth (text ++ rest) = some (value, rest)

def ReadsElements (depth : Nat) (text : List Char) (values : List Json) : Prop :=
  ∀ fuel rest, 2 * text.length + 1 ≤ fuel →
    readElements fuel depth (text ++ ']' :: rest) = some (values, rest)

def ReadsMembers (depth : Nat) (text : List Char) (members : List (String × Json)) : Prop :=
  ∀ fuel rest, 2 * text.length + 1 ≤ fuel →
    readMembers fuel depth (text ++ '\x7d' :: rest) = some (members, rest)

theorem fuel_left {text : List Char} {fuel : Nat} (nonempty : text ≠ [])
    (enough : 2 * text.length ≤ fuel) : ∃ less, fuel = less + 1 := by
  have positive := List.length_pos_iff.mpr nonempty
  exact ⟨fuel - 1, by omega⟩

theorem reads_null (depth : Nat) : Reads depth "null".toList .null := by
  intro fuel rest enough _
  obtain ⟨fuel, rfl⟩ := fuel_left (by decide) enough
  rfl

theorem reads_bool (depth : Nat) (value : Bool) :
    Reads depth (writeScalar (.bool value)) (.bool value) := by
  intro fuel rest enough _
  cases value with
  | false =>
    obtain ⟨fuel, rfl⟩ := fuel_left (by decide) enough
    rfl
  | true =>
    obtain ⟨fuel, rfl⟩ := fuel_left (by decide) enough
    rfl

theorem reads_string (depth : Nat) (text : String) : Reads depth (quote text) (.string text) := by
  intro fuel rest enough _
  obtain ⟨fuel, rfl⟩ := fuel_left (List.cons_ne_nil _ _) enough
  have read : readString (text.toList.flatMap escapeChar ++ ['"'] ++ rest) = some (text, rest) := by
    rw [List.append_assoc]
    exact readString_escaped text rest
  have shape : quote text ++ rest = '"' :: (text.toList.flatMap escapeChar ++ ['"'] ++ rest) := rfl
  rw [shape, readValue, skipSpace_solid (by decide)]
  simp only [read, Option.map_some]

theorem reads_number (depth : Nat) {n : Nat} (small : n < UInt32.size) :
    Reads depth (Nat.toDigits 10 n) (.number n.repr) := by
  intro fuel rest enough ends
  have read := readNumber_digits small ends
  obtain ⟨first, others, shape⟩ := List.exists_cons_of_ne_nil (@Nat.toDigits_ne_nil n 10)
  rw [shape] at enough read ⊢
  obtain ⟨fuel, rfl⟩ := fuel_left (List.cons_ne_nil _ _) enough
  have digit : first.isDigit = true :=
    Nat.isDigit_of_mem_toDigits (by decide) (by decide) (shape ▸ List.mem_cons_self)
  obtain ⟨solid, mark⟩ := digit_is_no_mark digit
  simp only [List.mem_cons, List.not_mem_nil, or_false, not_or] at mark
  rw [List.cons_append, readValue, skipSpace_solid solid]
  split
  · simp_all
  · simp_all
  · simp_all
  · simp_all
  · simp_all
  · simp_all
  · exact read

/- Arrays and objects, put together from their items. -/

theorem endsNumber_blank {before : List Char} (blank : AllBlank before) {rest : List Char}
    (ends : EndsNumber rest) : EndsNumber (before ++ rest) := by
  cases before with
  | nil => exact ends
  | cons c others =>
    have space : isSpace c = true := blank c List.mem_cons_self
    have apart : ∀ mark : Char, isSpace mark = false → c ≠ mark := by
      rintro mark solid rfl
      simp [space] at solid
    have noDigit : c.isDigit = false := by
      cases digit : c.isDigit with
      | false => rfl
      | true => simp [(digit_is_no_mark digit).1] at space
    exact endsNumber_cons _ noDigit (apart '.' (by decide)) (apart 'e' (by decide))
      (apart 'E' (by decide))

theorem readsElements_last {depth : Nat} {before text after : List Char} {value : Json}
    (blank : AllBlank before) (close : AllBlank after) (reads : Reads depth text value) :
    ReadsElements depth (before ++ text ++ after) [value] := by
  intro fuel rest enough
  obtain ⟨fuel, rfl⟩ : ∃ less, fuel = less + 1 := ⟨fuel - 1, by omega⟩
  have read := reads fuel (after ++ ']' :: rest) (by simp at enough; omega)
    (endsNumber_blank close (endsNumber_cons _ (by decide) (by decide) (by decide) (by decide)))
  rw [List.append_assoc, List.append_assoc, readElements, readValue_blank _ _ blank, read]
  simp only [Option.bind_eq_bind, Option.bind_some, skipSpace_blank close,
    skipSpace_solid (by decide : isSpace ']' = false), Option.pure_def]

theorem readsElements_next {depth : Nat} {before text others : List Char} {value : Json}
    {values : List Json} (blank : AllBlank before) (reads : Reads depth text value)
    (later : ReadsElements depth others values) :
    ReadsElements depth (before ++ text ++ ',' :: others) (value :: values) := by
  intro fuel rest enough
  obtain ⟨fuel, rfl⟩ : ∃ less, fuel = less + 1 := ⟨fuel - 1, by omega⟩
  simp only [List.length_append, List.length_cons] at enough
  have read := reads fuel (',' :: (others ++ ']' :: rest)) (by omega)
    (endsNumber_cons _ (by decide) (by decide) (by decide) (by decide))
  have further := later fuel rest (by omega)
  rw [List.append_assoc, List.append_assoc, List.cons_append, readElements,
    readValue_blank _ _ blank, read]
  simp only [Option.bind_eq_bind, Option.bind_some,
    skipSpace_solid (by decide : isSpace ',' = false), further, Option.pure_def]

theorem readsMembers_last {depth : Nat} {before gap text after : List Char} (name : String)
    {value : Json} (blank : AllBlank before) (inner : AllBlank gap) (close : AllBlank after)
    (reads : Reads depth text value) :
    ReadsMembers depth (before ++ quote name ++ ':' :: gap ++ text ++ after) [(name, value)] := by
  intro fuel rest enough
  obtain ⟨fuel, rfl⟩ : ∃ less, fuel = less + 1 := ⟨fuel - 1, by omega⟩
  simp only [List.length_append, List.length_cons] at enough
  have read := reads fuel (after ++ '\x7d' :: rest) (by omega)
    (endsNumber_blank close (endsNumber_cons _ (by decide) (by decide) (by decide) (by decide)))
  have shape : before ++ quote name ++ ':' :: gap ++ text ++ after ++ '\x7d' :: rest =
      before ++ '"' :: (name.toList.flatMap escapeChar ++
        '"' :: ':' :: (gap ++ (text ++ (after ++ '\x7d' :: rest)))) := by
    simp [quote]
  rw [shape, readMembers, skipSpace_blank blank, skipSpace_solid (by decide)]
  simp only [readString_escaped, Option.bind_eq_bind, Option.bind_some,
    skipSpace_solid (by decide : isSpace ':' = false), readValue_blank _ _ inner, read,
    skipSpace_blank close, skipSpace_solid (by decide : isSpace '\x7d' = false), Option.pure_def]

theorem readsMembers_next {depth : Nat} {before gap text others : List Char} (name : String)
    {value : Json} {members : List (String × Json)} (blank : AllBlank before)
    (inner : AllBlank gap) (reads : Reads depth text value)
    (later : ReadsMembers depth others members) :
    ReadsMembers depth (before ++ quote name ++ ':' :: gap ++ text ++ ',' :: others)
      ((name, value) :: members) := by
  intro fuel rest enough
  obtain ⟨fuel, rfl⟩ : ∃ less, fuel = less + 1 := ⟨fuel - 1, by omega⟩
  simp only [List.length_append, List.length_cons] at enough
  have read := reads fuel (',' :: (others ++ '\x7d' :: rest)) (by omega)
    (endsNumber_cons _ (by decide) (by decide) (by decide) (by decide))
  have further := later fuel rest (by omega)
  have shape : before ++ quote name ++ ':' :: gap ++ text ++ ',' :: others ++ '\x7d' :: rest =
      before ++ '"' :: (name.toList.flatMap escapeChar ++
        '"' :: ':' :: (gap ++ (text ++ ',' :: (others ++ '\x7d' :: rest)))) := by
    simp [quote]
  rw [shape, readMembers, skipSpace_blank blank, skipSpace_solid (by decide)]
  simp only [readString_escaped, Option.bind_eq_bind, Option.bind_some,
    skipSpace_solid (by decide : isSpace ':' = false), readValue_blank _ _ inner, read,
    skipSpace_solid (by decide : isSpace ',' = false), further, Option.pure_def]

/- The reader looks for the closing bracket of an empty array or object first. It finds none where
   items are read. -/

theorem skipSpace_twice (text : List Char) : skipSpace (skipSpace text) = skipSpace text := by
  have blank : AllBlank (text.takeWhile isSpace) :=
    fun c member => List.all_eq_true.mp List.all_takeWhile c member
  have whole : text.takeWhile isSpace ++ skipSpace text = text := List.takeWhile_append_dropWhile
  have skipped := skipSpace_blank blank (skipSpace text)
  rw [whole] at skipped
  exact skipped.symm

theorem readElements_skipSpace (fuel depth : Nat) (text : List Char) :
    readElements fuel depth (skipSpace text) = readElements fuel depth text := by
  have value : ∀ fuel, readValue fuel depth (skipSpace text) = readValue fuel depth text := by
    intro fuel
    cases fuel with
    | zero => rfl
    | succ fuel => simp only [readValue, skipSpace_twice]
  cases fuel with
  | zero => rfl
  | succ fuel => simp only [readElements, value]

theorem readMembers_skipSpace (fuel depth : Nat) (text : List Char) :
    readMembers fuel depth (skipSpace text) = readMembers fuel depth text := by
  cases fuel with
  | zero => rfl
  | succ fuel => simp only [readMembers, skipSpace_twice]

theorem no_element_at_bracket (fuel depth : Nat) (rest : List Char) :
    readElements fuel depth (']' :: rest) = none := by
  have value : ∀ fuel, readValue fuel depth (']' :: rest) = none := by
    intro fuel
    cases fuel with
    | zero => rfl
    | succ fuel => rfl
  cases fuel with
  | zero => rfl
  | succ fuel => simp [readElements, value]

theorem no_member_at_brace (fuel depth : Nat) (rest : List Char) :
    readMembers fuel depth ('\x7d' :: rest) = none := by
  cases fuel with
  | zero => rfl
  | succ fuel => rfl

theorem reads_array {depth : Nat} {text : List Char} {values : List Json}
    (reads : ReadsElements (depth + 1) text values) :
    Reads (depth + 2) ('[' :: text ++ [']']) (.array values) := by
  intro fuel rest enough _
  simp only [List.length_append, List.length_cons, List.length_nil] at enough
  obtain ⟨fuel, rfl⟩ : ∃ less, fuel = less + 1 := ⟨fuel - 1, by omega⟩
  have read := reads fuel rest (by omega)
  rw [← readElements_skipSpace] at read
  have shape : '[' :: text ++ [']'] ++ rest = '[' :: (text ++ ']' :: rest) := by simp
  have deep : ¬ depth + 2 ≤ 1 := by omega
  rw [shape, readValue, skipSpace_solid (by decide)]
  simp only [deep, ↓reduceIte]
  split
  · rename_i closed
    rw [closed, no_element_at_bracket] at read
    simp at read
  · simp [read]

theorem reads_object {depth : Nat} {text : List Char} {members : List (String × Json)}
    (reads : ReadsMembers (depth + 1) text members) :
    Reads (depth + 2) ('\x7b' :: text ++ ['\x7d']) (.object members) := by
  intro fuel rest enough _
  simp only [List.length_append, List.length_cons, List.length_nil] at enough
  obtain ⟨fuel, rfl⟩ : ∃ less, fuel = less + 1 := ⟨fuel - 1, by omega⟩
  have read := reads fuel rest (by omega)
  rw [← readMembers_skipSpace] at read
  have shape : '\x7b' :: text ++ ['\x7d'] ++ rest = '\x7b' :: (text ++ '\x7d' :: rest) := by simp
  have deep : ¬ depth + 2 ≤ 1 := by omega
  rw [shape, readValue, skipSpace_solid (by decide)]
  simp only [deep, ↓reduceIte]
  split
  · rename_i closed
    rw [closed, no_member_at_brace] at read
    simp at read
  · simp [read]

theorem reads_empty_array (depth : Nat) : Reads (depth + 2) ['[', ']'] (.array []) := by
  intro fuel rest enough _
  obtain ⟨fuel, rfl⟩ := fuel_left (List.cons_ne_nil _ _) enough
  simp [readValue, skipSpace, isSpace]

theorem reads_empty_object (depth : Nat) : Reads (depth + 2) ['\x7b', '\x7d'] (.object []) := by
  intro fuel rest enough _
  obtain ⟨fuel, rfl⟩ := fuel_left (List.cons_ne_nil _ _) enough
  simp [readValue, skipSpace, isSpace]

/- The two ways of writing. -/

/-- Values that nest at most so deep and whose numbers are natural ones of 32 bits. -/
inductive Readable : (depth : Nat) → Json → Prop where
  | null {depth : Nat} : Readable depth .null
  | bool {depth : Nat} (value : Bool) : Readable depth (.bool value)
  | number {depth n : Nat} : n < UInt32.size → Readable depth (.number n.repr)
  | string {depth : Nat} (text : String) : Readable depth (.string text)
  | array {depth : Nat} {elements : List Json} : (∀ element ∈ elements, Readable depth element) →
      Readable (depth + 1) (.array elements)
  | object {depth : Nat} {members : List (String × Json)} :
      (∀ member ∈ members, Readable depth member.2) → Readable (depth + 1) (.object members)

theorem writeElements_reads {depth : Nat} {elements : List Json} (some : elements ≠ [])
    (each : ∀ element ∈ elements, Reads depth (write element) element) :
    ReadsElements depth (writeElements elements) elements := by
  have nothing : AllBlank [] := by simp [AllBlank]
  induction elements with
  | nil => exact absurd rfl some
  | cons first others ih =>
    simp only [List.mem_cons, forall_eq_or_imp] at each
    cases others with
    | nil => simpa [writeElements] using readsElements_last nothing nothing each.1
    | cons next others =>
      simpa [writeElements] using readsElements_next nothing each.1 (ih (by simp) each.2)

theorem writeMembers_reads {depth : Nat} {members : List (String × Json)} (some : members ≠ [])
    (each : ∀ member ∈ members, Reads depth (write member.2) member.2) :
    ReadsMembers depth (writeMembers members) members := by
  have nothing : AllBlank [] := by simp [AllBlank]
  induction members with
  | nil => exact absurd rfl some
  | cons first others ih =>
    obtain ⟨name, value⟩ := first
    simp only [List.mem_cons, forall_eq_or_imp] at each
    cases others with
    | nil =>
      simpa [writeMembers] using readsMembers_last name nothing nothing nothing each.1
    | cons next others =>
      simpa [writeMembers] using
        readsMembers_next name nothing nothing each.1 (ih (by simp) each.2)

theorem written_reads {depth : Nat} {value : Json} (readable : Readable depth value) :
    Reads (depth + 1) (write value) value := by
  induction readable with
  | null => exact reads_null _
  | bool value => exact reads_bool _ value
  | number small =>
    simpa [write, writeScalar] using reads_number _ small
  | string text => exact reads_string _ text
  | @array depth elements _ ih =>
    by_cases some : elements = []
    · subst some
      exact reads_empty_array depth
    · exact reads_array (writeElements_reads some ih)
  | @object depth members _ ih =>
    by_cases some : members = []
    · subst some
      exact reads_empty_object depth
    · exact reads_object (writeMembers_reads some ih)

theorem newLine_blank (level : Nat) : AllBlank (newLine level) := by
  intro c member
  simp only [newLine, List.mem_cons, List.mem_replicate] at member
  rcases member with rfl | ⟨_, rfl⟩
  · decide
  · decide

theorem writePrettyElements_reads {depth : Nat} (level : Nat) {elements : List Json}
    (some : elements ≠ [])
    (each : ∀ element ∈ elements, ∀ level, Reads depth (writePretty level element) element) :
    ReadsElements depth (writePrettyElements (level + 1) elements ++ newLine level) elements := by
  induction elements with
  | nil => exact absurd rfl some
  | cons first others ih =>
    simp only [List.mem_cons, forall_eq_or_imp] at each
    cases others with
    | nil => exact readsElements_last (newLine_blank _) (newLine_blank _) (each.1 _)
    | cons next others =>
      have reads := readsElements_next (newLine_blank (level + 1)) (each.1 (level + 1))
        (ih (by simp) each.2)
      simpa [writePrettyElements] using reads

theorem writePrettyMembers_reads {depth : Nat} (level : Nat) {members : List (String × Json)}
    (some : members ≠ [])
    (each : ∀ member ∈ members, ∀ level, Reads depth (writePretty level member.2) member.2) :
    ReadsMembers depth (writePrettyMembers (level + 1) members ++ newLine level) members := by
  have space : AllBlank [' '] := by simp [AllBlank, isSpace]
  induction members with
  | nil => exact absurd rfl some
  | cons first others ih =>
    obtain ⟨name, value⟩ := first
    simp only [List.mem_cons, forall_eq_or_imp] at each
    cases others with
    | nil =>
      have reads := readsMembers_last name (newLine_blank (level + 1)) space (newLine_blank level)
        (each.1 (level + 1))
      simpa [writePrettyMembers] using reads
    | cons next others =>
      have reads := readsMembers_next name (newLine_blank (level + 1)) space (each.1 (level + 1))
        (ih (by simp) each.2)
      simpa [writePrettyMembers] using reads

theorem pretty_written_reads {depth : Nat} {value : Json} (readable : Readable depth value) :
    ∀ level, Reads (depth + 1) (writePretty level value) value := by
  induction readable with
  | null => exact fun _ => reads_null _
  | bool value => exact fun _ => reads_bool _ value
  | number small =>
    intro level
    simpa [writePretty, writeScalar] using reads_number _ small
  | string text => exact fun _ => reads_string _ text
  | @array depth elements _ ih =>
    intro level
    cases elements with
    | nil => exact reads_empty_array depth
    | cons first others =>
      have reads := reads_array (writePrettyElements_reads level (by simp) ih)
      simpa [writePretty] using reads
  | @object depth members _ ih =>
    intro level
    cases members with
    | nil => exact reads_empty_object depth
    | cons first others =>
      have reads := reads_object (writePrettyMembers_reads level (by simp) ih)
      simpa [writePretty] using reads

theorem read_of_reads {text : List Char} {value : Json} (reads : Reads depthLimit text value) :
    read? (String.ofList text) = some value := by
  have read := reads (2 * text.length + 2) [] (by omega) endsNumber_nil
  rw [List.append_nil] at read
  simp [read?, read, skipSpace]

theorem read_written {value : Json} (readable : Readable 127 value) :
    read? value.compact = some value ∧ read? value.pretty = some value :=
  ⟨read_of_reads (written_reads readable), read_of_reads (pretty_written_reads readable 0)⟩

end DialogueScript.Json
