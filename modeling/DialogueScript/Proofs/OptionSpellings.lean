import DialogueScript.Command.Arguments
import Mathlib.Data.List.Infix

/- The two ways to give an option its value. An argument with an equals sign is read like the option
   and the value as two arguments, except that copies of the option in front of the value are lost.
   -/
namespace DialogueScript.Command

/-- Arguments in which every option that takes the next argument for its value has one. The argument
behind them is not taken for a value. -/
inductive Complete : List String → Prop where
  | nil : Complete []
  | alone {argument : String} {rest : List String} (plain : namedSetting? argument = none)
      (tail : Complete rest) : Complete (argument :: rest)
  | valued {argument value : String} {rest : List String} {setting : Setting}
      (named : namedSetting? argument = some setting) (tail : Complete rest) :
      Complete (argument :: value :: rest)

def Setting.signed (setting : Setting) : String := setting.spelling ++ "="

section Loop

variable {argument : String} {setting : Setting} {before : List String}

theorem takeAll_named (named : namedSetting? argument = some setting) (draft : Draft)
    (value : String) (rest : List String) :
    draft.takeAll (argument :: value :: rest) = (draft.set value setting).takeAll rest := by
  rw [Draft.takeAll, named]

theorem takeAll_alone (plain : namedSetting? argument = none) (draft : Draft)
    (rest : List String) :
    draft.takeAll (argument :: rest) = (draft.take argument).bind (·.takeAll rest) := by
  cases rest with
  | nil =>
    rw [Draft.takeAll, plain]
    cases draft.take argument <;> rfl
  | cons value rest =>
    rw [Draft.takeAll, plain]
    cases draft.take argument <;> rfl

theorem takeAll_complete (complete : Complete before) (draft : Draft) (rest : List String) :
    draft.takeAll (before ++ rest) = (draft.takeAll before).bind (·.takeAll rest) := by
  induction complete generalizing draft with
  | nil => rfl
  | alone plain _ ih =>
    rw [List.cons_append, takeAll_alone plain, takeAll_alone plain]
    cases draft.take _ with
    | error diversion => rfl
    | ok next => exact ih next
  | valued named _ ih =>
    rw [List.cons_append, List.cons_append, takeAll_named named, takeAll_named named, ih]

theorem parse_behind (complete : Complete before) {rest other : List String}
    (same : ∀ draft : Draft, draft.takeAll rest = draft.takeAll other) (color : Bool) :
    parse color (before ++ rest) = parse color (before ++ other) := by
  have both : (fun draft : Draft => draft.takeAll rest) = fun draft => draft.takeAll other :=
    funext same
  rw [parse, parse, takeAll_complete complete, takeAll_complete complete, both]

end Loop

section Assignments

variable {argument : String}

theorem named_without_sign {setting : Setting} (named : namedSetting? argument = some setting) :
    '=' ∉ argument.toList := by
  unfold namedSetting? at named
  split at named
  · rename_i short
    rw [short]
    decide
  · have spelled := List.find?_some named
    rw [beq_iff_eq] at spelled
    rw [← spelled]
    cases setting <;> decide

theorem switch_without_sign {draft switched : Draft}
    (switches : draft.switch? argument = some switched) : '=' ∉ argument.toList := by
  unfold Draft.switch? at switches
  split at switches
  · decide
  · decide
  · decide
  · decide
  · cases switches

theorem sign_of_signed (setting : Setting) (value : String) :
    '=' ∈ (setting.signed ++ value).toList := by
  simp [Setting.signed]

theorem signed_isPrefixOf (first second : Setting) (value : String) :
    first.signed.toList.isPrefixOf (second.signed ++ value).toList = decide (first = second) := by
  cases first <;> cases second <;>
    simp [Setting.signed, Setting.spelling, String.toList_append, List.isPrefixOf]

theorem assignment_of_signed (setting : Setting) (value : String) :
    assignment? (setting.signed ++ value) = some (setting, String.ofList
      (dropRepeated setting.signed.toList (setting.signed ++ value).toList.length
        (setting.signed ++ value).toList)) := by
  have each (other : Setting) := signed_isPrefixOf other setting value
  simp only [Setting.signed] at each ⊢
  simp only [assignment?, Setting.all, List.findSome?_cons, each]
  cases setting <;> rfl

theorem copies_succ (copies : Nat) (word rest : List Char) :
    (List.replicate (copies + 1) word).flatten ++ rest =
      word ++ ((List.replicate copies word).flatten ++ rest) := by
  rw [List.replicate_succ, List.flatten_cons, List.append_assoc]

theorem dropRepeated_copies {word rest : List Char} (bare : ¬ word <+: rest) {copies times : Nat}
    (enough : copies ≤ times) :
    dropRepeated word times ((List.replicate copies word).flatten ++ rest) = rest := by
  induction copies generalizing times with
  | zero =>
    cases times with
    | zero => rfl
    | succ times =>
      rw [List.replicate_zero, List.flatten_nil, List.nil_append, dropRepeated,
        if_neg (mt List.isPrefixOf_iff_prefix.mp bare)]
  | succ copies ih =>
    cases times with
    | zero => omega
    | succ times =>
      have starts : word <+: word ++ ((List.replicate copies word).flatten ++ rest) :=
        List.prefix_append _ _
      rw [copies_succ, dropRepeated, if_pos (List.isPrefixOf_iff_prefix.mpr starts), List.drop_left,
        ih (by omega)]

theorem copies_le_length {word : List Char} (nonempty : word ≠ []) (copies : Nat)
    (rest : List Char) : copies ≤ ((List.replicate copies word).flatten ++ rest).length := by
  induction copies with
  | zero => exact Nat.zero_le _
  | succ copies ih =>
    have some := List.length_pos_of_ne_nil nonempty
    rw [copies_succ, List.length_append]
    omega

theorem copies_in_front {word : List Char} (nonempty : word ≠ []) (text : List Char) :
    ∃ copies rest, text = (List.replicate copies word).flatten ++ rest ∧ ¬ word <+: rest := by
  induction measure : text.length using Nat.strongRecOn generalizing text with
  | ind size ih =>
    by_cases starts : word <+: text
    · obtain ⟨behind, rfl⟩ := starts
      have shorter : behind.length < size := by
        have some := List.length_pos_of_ne_nil nonempty
        rw [List.length_append] at measure
        omega
      obtain ⟨copies, rest, rfl, bare⟩ := ih _ shorter behind rfl
      exact ⟨copies + 1, rest, (copies_succ copies word rest).symm, bare⟩
    · exact ⟨0, text, rfl, starts⟩

theorem signed_nonempty (setting : Setting) : setting.signed.toList ≠ [] := by
  simp [Setting.signed]

theorem spelling_is_named (setting : Setting) : namedSetting? setting.spelling = some setting := by
  cases setting <;> rfl

section Copies

variable {setting : Setting} {value rest : String} {copies : Nat}
  (whole : value.toList = (List.replicate copies setting.signed.toList).flatten ++ rest.toList)
  (bare : ¬ setting.signed.toList <+: rest.toList)

include whole bare

theorem take_signed (draft : Draft) :
    draft.take (setting.signed ++ value) = .ok (draft.set rest setting) := by
  have sign := sign_of_signed setting value
  have other {word : String} (plain : '=' ∉ word.toList) : setting.signed ++ value ≠ word := by
    rintro rfl
    exact plain sign
  have stays : draft.switch? (setting.signed ++ value) = none := by
    cases switches : draft.switch? (setting.signed ++ value) with
    | none => rfl
    | some switched => exact absurd sign (switch_without_sign switches)
  have text : (setting.signed ++ value).toList =
      (List.replicate (copies + 1) setting.signed.toList).flatten ++ rest.toList := by
    rw [String.toList_append, whole, copies_succ]
  have enough : copies + 1 ≤ (setting.signed ++ value).toList.length := by
    rw [text]
    exact copies_le_length (signed_nonempty setting) _ _
  rw [Draft.take, if_neg (by simp [other]), if_neg (by simp [other]), stays, assignment_of_signed]
  nth_rewrite 2 [text]
  simp only [dropRepeated_copies bare enough, String.ofList_toList]

/-- An option with its equals sign is read like the option with a value of its own, which is what is
left when all copies of the option and the sign are gone from the front. -/
theorem takeAll_signed (draft : Draft) (after : List String) :
    draft.takeAll ((setting.signed ++ value) :: after) =
      draft.takeAll (setting.spelling :: rest :: after) := by
  have plain : namedSetting? (setting.signed ++ value) = none := by
    cases named : namedSetting? (setting.signed ++ value) with
    | none => rfl
    | some other => exact absurd (sign_of_signed setting value) (named_without_sign named)
  rw [takeAll_alone plain, take_signed whole bare, takeAll_named (spelling_is_named setting)]
  rfl

theorem parse_signed (color : Bool) {before : List String} (complete : Complete before)
    (after : List String) :
    parse color (before ++ (setting.signed ++ value) :: after) =
      parse color (before ++ setting.spelling :: rest :: after) := by
  apply parse_behind complete
  intro draft
  exact takeAll_signed whole bare draft after

end Copies

end Assignments

section Values

theorem finish_keeps {draft : Draft} {configuration : Configuration}
    (done : draft.finish = .ok configuration) :
    draft = ⟨some configuration.root, configuration.out, configuration.cache,
      configuration.synonyms, configuration.extension, configuration.keepGoing,
      configuration.strictTopics, configuration.color⟩ := by
  obtain ⟨root, out, cache, synonyms, extension, keepGoing, strictTopics, color⟩ := draft
  cases root with
  | none => cases done
  | some root =>
    simp only [Draft.finish] at done
    split at done
    · cases done
    · cases done
      rfl

theorem finish_succeeds {draft : Draft} {root : String} (rooted : draft.root = some root)
    (visible : ∃ c ∈ draft.extension.toList, c ≠ '.') :
    ∃ configuration, draft.finish = .ok configuration := by
  obtain ⟨_, out, cache, synonyms, extension, keepGoing, strictTopics, color⟩ := draft
  cases rooted
  have nonempty : extension.toList.all (· == '.') = false := by simpa using visible
  simp [Draft.finish, nonempty]

theorem take_root {draft : Draft} (rootless : draft.root = none) :
    draft.take "chat" = .ok { draft with root := some "chat" } := by
  have switches : draft.switch? "chat" = none := rfl
  have assigns : assignment? "chat" = none := rfl
  simp [Draft.take, switches, assigns, rootless]

theorem separate_value_inj {setting : Setting} {value other : String} (dashed : '-' ∈ value.toList)
    (same : parse false [setting.spelling, value, "chat"] =
      parse false [setting.spelling, other, "chat"]) : value = other := by
  have parsed (value : String) : parse false [setting.spelling, value, "chat"] =
      Draft.finish { Draft.set {} value setting with root := some "chat" } := by
    have rootless : (Draft.set {} value setting).root = none := by cases setting <;> rfl
    rw [parse, takeAll_named (spelling_is_named setting), takeAll_alone rfl, take_root rootless]
    rfl
  have visible : ∃ c ∈ (Draft.set {} value setting).extension.toList, c ≠ '.' := by
    cases setting with
    | extension => exact ⟨'-', dashed, by decide⟩
    | out | cache | synonyms =>
      have letter : 's' ∈ "ss".toList := by decide
      exact ⟨'s', letter, by decide⟩
  have ready : ∃ configuration,
      Draft.finish { Draft.set {} value setting with root := some "chat" } = .ok configuration :=
    finish_succeeds rfl visible
  rw [parsed, parsed] at same
  obtain ⟨configuration, done⟩ := ready
  have equal := (finish_keeps done).trans (finish_keeps (same.symm.trans done)).symm
  cases setting <;> simpa [Draft.set] using equal

end Values

/-- Both spellings of an option mean the same in all surroundings just if the value does not start
with the option and its equals sign. In general the spelling with the sign means the value without
all such copies in front. -/
theorem both_spellings_agree_iff (setting : Setting) (value : String) :
    ((∀ (color : Bool) (before after : List String), Complete before →
        parse color (before ++ (setting.spelling ++ "=" ++ value) :: after) =
          parse color (before ++ setting.spelling :: value :: after)) ↔
      ¬ (setting.spelling ++ "=").toList <+: value.toList) ∧
    ∀ (copies : Nat) (rest : String),
      value.toList =
        (List.replicate copies (setting.spelling ++ "=").toList).flatten ++ rest.toList →
      ¬ (setting.spelling ++ "=").toList <+: rest.toList →
      ∀ (color : Bool) (before after : List String), Complete before →
        parse color (before ++ (setting.spelling ++ "=" ++ value) :: after) =
          parse color (before ++ setting.spelling :: rest :: after) := by
  refine ⟨⟨?_, ?_⟩, ?_⟩
  -- Where copies are lost, the value and what is left of it make two configurations.
  · intro agree starts
    obtain ⟨copies, left, whole, bare⟩ := copies_in_front (signed_nonempty setting) value.toList
    obtain ⟨rest, rfl⟩ : ∃ rest : String, rest.toList = left :=
      ⟨String.ofList left, String.toList_ofList⟩
    have same := (agree false [] ["chat"] .nil).symm.trans (parse_signed whole bare false .nil _)
    have dashed : '-' ∈ value.toList := starts.subset (by cases setting <;> decide)
    rw [← separate_value_inj dashed same] at bare
    exact bare starts
  · intro bare color before after complete
    have whole : value.toList =
        (List.replicate 0 setting.signed.toList).flatten ++ value.toList := rfl
    exact parse_signed whole bare color complete after
  · intro copies rest whole bare color before after complete
    exact parse_signed whole bare color complete after

-- An option that is the value of another one, and a copy that is not in front of the value.
theorem copy_inside_value_is_kept :
    ¬ "--out=".toList <+: "kb--out=.json".toList ∧ Complete ["-o", "--cache", "--ext=txt"] ∧
      parse true
          (["-o", "--cache", "--ext=txt"] ++ ("--out" ++ "=" ++ "kb--out=.json") :: ["chat"]) =
        parse true (["-o", "--cache", "--ext=txt"] ++ "--out" :: "kb--out=.json" :: ["chat"]) := by
  have bare : ¬ "--out=".toList <+: "kb--out=.json".toList := by decide
  have complete : Complete ["-o", "--cache", "--ext=txt"] := .valued rfl (.alone rfl .nil)
  exact ⟨bare, complete, (both_spellings_agree_iff .out _).1.mpr bare true _ _ complete⟩

theorem copy_before_value_is_lost :
    parse false ["--synonyms=--synonyms=s.json", "chat"] =
        .ok { root := "chat", synonyms := some "s.json" } ∧
      parse false ["--synonyms", "--synonyms=s.json", "chat"] =
        .ok { root := "chat", synonyms := some "--synonyms=s.json" } := by
  exact ⟨by rfl, by rfl⟩

end DialogueScript.Command
