import DialogueScript.Proofs.PrintedScripts
import DialogueScript.Proofs.SourceErrors

/- The layout of a script. Blank lines, comments and the blanks around a line can be added or left
   out: what is read stays the same, and so does what is told of a line at fault, up to the number
   of the line. -/
namespace DialogueScript
open Text

/- Lines that may be left out. -/

namespace Script

variable {draft next : Draft}

theorem takeLine_idle {line : List Char} (idle : isIdle line = true) (draft : Draft)
    (number : Nat) : draft.takeLine number line = .ok draft := by
  unfold Draft.takeLine
  split
  · rfl
  · rw [if_pos idle]

theorem takeLine_renumbered (draft : Draft) (number other : Nat) (line : List Char) :
    draft.takeLine other line =
      (draft.takeLine number line).mapError fun fault => { fault with line := other } := by
  unfold Draft.takeLine
  split
  · rfl
  · split
    · rfl
    · split <;> rfl

theorem takeLine_fault_line {number : Nat} {line : List Char} {fault : SyntaxError}
    (refused : draft.takeLine number line = .error fault) : fault.line = number := by
  have same := takeLine_renumbered draft number number line
  rw [refused] at same
  exact congrArg SyntaxError.line (Except.error.inj same)

/-- A run of lines fails at the first line that cannot be taken in. -/
theorem takeLines_error_iff {number : Nat} {rows : List (List Char)} {fault : SyntaxError} :
    draft.takeLines number rows = .error fault ↔
      ∃ before row after middle, rows = before ++ row :: after ∧
        draft.takeLines number before = .ok middle ∧
        middle.takeLine (number + before.length) (trim row) = .error fault := by
  constructor
  · intro refused
    induction rows generalizing draft number with
    | nil => cases refused
    | cons row rest ih =>
      rw [Draft.takeLines] at refused
      cases taken : draft.takeLine number (trim row) with
      | error error =>
        rw [taken] at refused
        cases refused
        exact ⟨[], row, rest, draft, rfl, rfl, taken⟩
      | ok next =>
        rw [taken] at refused
        obtain ⟨before, culprit, after, middle, rfl, read, stops⟩ := ih refused
        refine ⟨row :: before, culprit, after, middle, rfl, ?_, ?_⟩
        · rw [Draft.takeLines, taken]
          exact read
        · rw [List.length_cons, ← Nat.add_assoc, Nat.add_right_comm]
          exact stops
  · rintro ⟨before, row, after, middle, rfl, read, stops⟩
    rw [takeLines_append read, Draft.takeLines, stops]

def keptRows (keep : List Char → Bool) (rows : List (List Char)) : List (List Char) :=
  (rows.map trim).filter keep

theorem keptRows_append (keep : List Char → Bool) (first second : List (List Char)) :
    keptRows keep (first ++ second) = keptRows keep first ++ keptRows keep second := by
  unfold keptRows
  rw [List.map_append, List.filter_append]

theorem keptRows_cons {keep : List Char → Bool} {row : List Char} (kept : keep (trim row) = true)
    (rest : List (List Char)) : keptRows keep (row :: rest) = trim row :: keptRows keep rest := by
  unfold keptRows
  rw [List.map_cons, List.filter_cons_of_pos kept]

section Kept

variable {keep : List Char → Bool} {rows : List (List Char)} {number : Nat}

theorem takeLines_kept (idle : ∀ line, keep line = false → isIdle line = true)
    (taken : draft.takeLines number rows = .ok next) (other : Nat) :
    draft.takeLines other (keptRows keep rows) = .ok next := by
  induction rows generalizing draft number other with
  | nil => exact taken
  | cons row rest ih =>
    rw [Draft.takeLines] at taken
    cases kept : keep (trim row) with
    | true =>
      rw [keptRows_cons kept, Draft.takeLines, trim_trim, takeLine_renumbered draft number]
      cases first : draft.takeLine number (trim row) with
      | error fault =>
        rw [first] at taken
        cases taken
      | ok middle =>
        rw [first] at taken
        exact ih taken (other + 1)
    | false =>
      rw [takeLine_idle (idle _ kept)] at taken
      unfold keptRows
      rw [List.map_cons, List.filter_cons_of_neg (by simp [kept])]
      exact ih taken other

/-- The line at fault stays at fault, behind the kept ones of the lines before it. -/
theorem takeLines_kept_fault (idle : ∀ line, keep line = false → isIdle line = true)
    {fault : SyntaxError} (refused : draft.takeLines number rows = .error fault) :
    ∃ before row after, rows = before ++ row :: after ∧ fault.line = number + before.length ∧
      keep (trim row) = true ∧
      ∀ other, draft.takeLines other (keptRows keep rows) =
        .error { fault with line := other + (keptRows keep before).length } := by
  obtain ⟨before, row, after, middle, rfl, taken, stops⟩ := takeLines_error_iff.mp refused
  have kept : keep (trim row) = true := by
    rw [← Bool.not_eq_false]
    intro dropped
    rw [takeLine_idle (idle _ dropped)] at stops
    cases stops
  refine ⟨before, row, after, rfl, takeLine_fault_line stops, kept, ?_⟩
  intro other
  refine takeLines_error_iff.mpr ⟨keptRows keep before, trim row, keptRows keep after, middle, ?_,
    takeLines_kept idle taken other, ?_⟩
  · rw [keptRows_append, keptRows_cons kept]
  · rw [trim_trim, takeLine_renumbered middle (number + before.length), stops]
    rfl

end Kept

theorem keptRows_keptRows {wide narrow : List Char → Bool}
    (narrower : ∀ line, narrow line = true → wide line = true) (rows : List (List Char)) :
    keptRows narrow (keptRows wide rows) = keptRows narrow rows := by
  have trimmed : (keptRows wide rows).map trim = keptRows wide rows := by
    unfold keptRows
    calc ((rows.map trim).filter wide).map trim
      _ = ((rows.map trim).filter wide).map id := by
        apply List.map_congr_left
        intro line member
        obtain ⟨row, _, rfl⟩ := List.mem_map.mp (List.mem_of_mem_filter member)
        exact trim_trim row
      _ = (rows.map trim).filter wide := List.map_id _
  calc keptRows narrow (keptRows wide rows)
    _ = ((rows.map trim).filter wide).filter narrow := by
      rw [keptRows, trimmed, keptRows]
    _ = (rows.map trim).filter narrow := by
      rw [List.filter_filter]
      apply List.filter_congr
      intro line _
      cases kept : narrow line with
      | true => rw [narrower line kept]; rfl
      | false => rfl

end Script

/- The prepared text. -/

def countedLines (text : List Char) : List (List Char) :=
  Script.keptRows (!Script.isIdle ·) (lines text)

def solidRows (rows : List (List Char)) : List (List Char) := Script.keptRows (!·.isEmpty) rows

theorem solidRows_split {row : List Char} (solid : trim row ≠ [])
    (before after : List (List Char)) :
    solidRows (before ++ row :: after) = solidRows before ++ trim row :: solidRows after := by
  unfold solidRows
  rw [Script.keptRows_append, Script.keptRows_cons (by simpa using solid)]

theorem solid_line_spec {text line : List Char} (member : line ∈ solidRows (lines text)) :
    SolidEnds line ∧ '\n' ∉ line := by
  obtain ⟨row, isLine, rfl⟩ := List.mem_map.mp (List.mem_of_mem_filter member)
  refine ⟨trim_solid row, ?_⟩
  intro feed
  exact line_in_one isLine (trim_subset row feed)

theorem intercalate_ended {rows : List (List Char)} (some : rows ≠ []) :
    ['\n'].intercalate rows ++ ['\n'] = rows.flatMap (· ++ ['\n']) := by
  induction rows with
  | nil => exact absurd rfl some
  | cons row rest ih =>
    cases rest with
    | nil => simp
    | cons next others =>
      rw [List.intercalate_cons_cons, List.append_assoc, ih (List.cons_ne_nil next others)]
      rfl

theorem lines_preprocess (text : List Char) :
    lines (preprocess text) =
      if solidRows (lines text) = [] then [[]] else solidRows (lines text) := by
  have shape : preprocess text = ['\n'].intercalate (solidRows (lines text)) ++ ['\n'] := rfl
  split
  · rename_i nothing
    rw [shape, nothing]
    rfl
  · rename_i some
    rw [shape, intercalate_ended some]
    apply lines_of_ended
    · intro row member
      exact (solid_line_spec member).1
    · intro row member
      exact (solid_line_spec member).2

theorem countedLines_preprocess (text : List Char) :
    countedLines (preprocess text) = countedLines text := by
  have solid : ∀ line, (!Script.isIdle line) = true → (!line.isEmpty) = true := by
    intro line awake
    cases line with
    | nil => cases awake
    | cons c rest => rfl
  have same := Script.keptRows_keptRows solid (lines text)
  change Script.keptRows _ (solidRows (lines text)) = countedLines text at same
  rw [countedLines, lines_preprocess, ← same]
  split
  · rename_i nothing
    rw [nothing]
    rfl
  · rfl

theorem prepared_line_trimmed {text row : List Char} (isLine : row ∈ lines (preprocess text)) :
    trim row = row := by
  rw [lines_preprocess] at isLine
  split at isLine
  · rw [List.mem_singleton.mp isLine]
    rfl
  · exact trim_eq_self_iff.mpr (solid_line_spec isLine).1

/- Reading and compiling, up to the number of a line. -/

/-- An error with the number of the line left out. -/
def SourceError.unplaced : SourceError → SourceError
  | .refused error text => .refused { error with line := 0 } text
  | other => other

def readCounted (rows : List (List Char)) : Except SourceError Script :=
  match Script.Draft.takeLines {} 1 rows with
  | .ok draft => .ok draft.finish
  | .error fault =>
    .error (.refused { fault with line := 0 } (String.ofList (rows.getD (fault.line - 1) [])))

variable {options : Options}

theorem readScript_counted (builtIn : options.reader = Script.read) (text : String) :
    (readScript options text).mapError SourceError.unplaced =
      readCounted (countedLines text.toList) := by
  have idle : ∀ line, (!Script.isIdle line) = false → Script.isIdle line = true := by simp
  rw [← countedLines_preprocess]
  simp only [readScript, builtIn, Script.read, String.toList_ofList]
  cases taken : Script.Draft.takeLines {} 1 (lines (preprocess text.toList)) with
  | ok draft =>
    have same := Script.takeLines_kept idle taken 1
    simp only [readCounted, countedLines, same]
    rfl
  | error fault =>
    obtain ⟨before, row, after, split, line, kept, renumbered⟩ :=
      Script.takeLines_kept_fault idle taken
    have isLine : row ∈ lines (preprocess text.toList) := by simp [split]
    have trimmed : trim row = row := prepared_line_trimmed isLine
    have told : lineAt (preprocess text.toList) fault.line = String.ofList row := by
      simp [lineAt, split, line]
    have counted : countedLines (preprocess text.toList) =
        Script.keptRows (!Script.isIdle ·) before ++
          row :: Script.keptRows (!Script.isIdle ·) after := by
      rw [countedLines, split, Script.keptRows_append, Script.keptRows_cons kept, trimmed]
    have same := renumbered 1
    rw [← countedLines, counted] at same
    simp only [counted, readCounted, same]
    simp [Except.map, Except.mapError, SourceError.unplaced, told]

def compileScript (options : Options) (name : String) (script : Script) :
    Except SourceError CompiledScript := do
  let (lowered, repeated) ← lowerScript options name script
  let (resolved, unresolved) ← lowered.revise (Graph.Gambit.resolveConversation options lowered)
  let (graph, unexpanded) ← resolved.revise
    (Graph.Gambit.compileTrigger options options.sources.expand)
  return { graph, diagnostics := repeated ++ unresolved ++ unexpanded }

theorem revise_nothing {ε : Type}
    (change : Graph.Gambit → Except ε (Graph.Gambit × List Diagnostic)) :
    Graph.revise change {} = .ok ({}, []) := by
  rfl

theorem compile_nothing (options : Options) (name : String) :
    compileScript options name {} = .ok {} := by
  have lowers : lowerScript options name {} = .ok ({}, []) := by
    rw [lowerScript_ok_iff]
    cases options.topicConflicts <;> rfl
  simp only [compileScript, lowers, bind_of_ok, revise_nothing]
  rfl

theorem solidRows_of_blank {text : String} (blank : isBlankText text = true) :
    solidRows (lines text.toList) = [] := by
  rw [solidRows, Script.keptRows, List.filter_eq_nil_iff]
  intro line member
  obtain ⟨row, isLine, rfl⟩ := List.mem_map.mp member
  have gone : trim row = [] := by
    by_contra some
    obtain ⟨c, rest, shape⟩ := List.exists_cons_of_ne_nil some
    have solid : isBlank c = false := (trim_solid row).first c (by simp [shape])
    have among : c ∈ row := trim_subset row (by simp [shape])
    rw [List.all_eq_true.mp blank c (line_spec isLine c among).1] at solid
    cases solid
  simp [gone]

theorem compileSource_eq (builtIn : options.reader = Script.read) (name text : String) :
    compileSource options name text = readScript options text >>= compileScript options name := by
  cases blank : isBlankText text with
  | false => exact compileSource_of_solid blank
  | true =>
    have reads : readScript options text = .ok {} := by
      have empty : preprocess text.toList = ['\n'] := by
        change ['\n'].intercalate (solidRows (lines text.toList)) ++ ['\n'] = ['\n']
        rw [solidRows_of_blank blank]
        rfl
      rw [readScript_ok_iff, builtIn, empty]
      rfl
    rw [reads, bind_of_ok, compile_nothing]
    simp [compileSource, compileText, blank]

theorem mapError_bind {ε α β : Type} {first second : Except ε α} {forget : ε → ε}
    (same : first.mapError forget = second.mapError forget) (next : α → Except ε β) :
    (first >>= next).mapError forget = (second >>= next).mapError forget := by
  cases first with
  | error fault =>
    cases second with
    | error other => exact congrArg Except.error (Except.error.inj same)
    | ok value => cases same
  | ok value =>
    cases second with
    | error other => cases same
    | ok other => rw [Except.ok.inj same]

/-- The line of a number, counted from one, is the `k`-th of the lines that are not blank. -/
structure IsSolidLine (text : List Char) (number k : Nat) (line : List Char) : Prop where
  positive : 0 < number
  there : (lines text)[number - 1]? = some line
  solid : trim line ≠ []
  place : (solidRows ((lines text).take number)).length = k

theorem isSolidLine_of_split {text row : List Char} {before after : List (List Char)}
    (split : lines text = before ++ row :: after) (solid : trim row ≠ []) :
    IsSolidLine text (1 + before.length) (1 + (solidRows before).length) row := by
  refine ⟨by omega, by simp [split], solid, ?_⟩
  have upTo : (lines text).take (1 + before.length) = before ++ [row] := by
    rw [split, Nat.add_comm, List.take_length_add_append]
    rfl
  rw [upTo, solidRows_split solid, List.length_append, Nat.add_comm]
  rfl

/-- The prepared form of a text is refused for the same reason as the text and at the same line. -/
structure RefusedAlike (text : String) (fault prepared : Script.SyntaxError) (culprit : List Char) :
    Prop where
  refused : Script.read (String.ofList (preprocess text.toList)) = .error prepared
  found : prepared.found = fault.found
  message : prepared.message = fault.message
  line : ∃ k, IsSolidLine text.toList fault.line k culprit ∧
    IsSolidLine (preprocess text.toList) prepared.line k (trim culprit)

theorem refused_alike {text : String} {fault : Script.SyntaxError}
    (refused : Script.read text = .error fault) :
    ∃ prepared culprit, RefusedAlike text fault prepared culprit := by
  have stops : Script.Draft.takeLines {} 1 (lines text.toList) = .error fault :=
    map_error_iff.mp refused
  have idle : ∀ line : List Char, (!line.isEmpty) = false → Script.isIdle line = true := by
    intro line blank
    cases line with
    | nil => rfl
    | cons c rest => cases blank
  obtain ⟨before, row, after, split, place, kept, renumbered⟩ :=
    Script.takeLines_kept_fault idle stops
  have solid : trim row ≠ [] := by simpa using kept
  have cut : solidRows (lines text.toList) = solidRows before ++ trim row :: solidRows after := by
    rw [split, solidRows_split solid]
  have prepared : lines (preprocess text.toList) = solidRows (lines text.toList) := by
    rw [lines_preprocess, if_neg (by simp [cut])]
  have again : solidRows (solidRows before) = solidRows before :=
    Script.keptRows_keptRows (fun _ kept => kept) before
  refine ⟨{ fault with line := 1 + (solidRows before).length }, row, ?_, rfl, rfl,
    1 + (solidRows before).length, ?_, ?_⟩
  · rw [Script.read, String.toList_ofList, prepared]
    exact map_error_iff.mpr (renumbered 1)
  · rw [place]
    exact isSolidLine_of_split split solid
  · have here := isSolidLine_of_split (prepared.trans cut) (by rwa [trim_trim])
    rwa [again] at here

theorem compileSource_refused (builtIn : options.reader = Script.read) (name : String)
    {text : String} {fault prepared : Script.SyntaxError} {culprit : List Char}
    (alike : RefusedAlike text fault prepared culprit) :
    compileSource options name text =
      .error (.refused prepared (String.ofList (trim culprit))) := by
  obtain ⟨refused, _, _, _, _, there⟩ := alike
  have told : lineAt (preprocess text.toList) prepared.line = String.ofList (trim culprit) := by
    rw [lineAt, List.getD_eq_getElem?_getD, there.there]
    rfl
  rw [compileSource_eq builtIn]
  simp only [readScript, builtIn, refused, told]
  rfl

/-- Blank lines, comments and the blanks around a line make no difference to what is compiled, but
for the number of a line that is refused. That number points at the same line in the text as it is
and as it is prepared for reading, and the line itself is told. -/
theorem layout_does_not_matter (builtIn : options.reader = Script.read) (name : String) :
    (∀ first second : String, countedLines first.toList = countedLines second.toList →
      (compileSource options name first).mapError SourceError.unplaced =
        (compileSource options name second).mapError SourceError.unplaced) ∧
    ∀ (text : String) (fault : Script.SyntaxError), Script.read text = .error fault →
      ∃ prepared culprit, RefusedAlike text fault prepared culprit ∧
        compileSource options name text =
          .error (.refused prepared (String.ofList (trim culprit))) := by
  constructor
  · intro first second same
    rw [compileSource_eq builtIn, compileSource_eq builtIn]
    apply mapError_bind
    rw [readScript_counted builtIn, readScript_counted builtIn, same]
  · intro text fault refused
    obtain ⟨prepared, culprit, alike⟩ := refused_alike refused
    exact ⟨prepared, culprit, alike, compileSource_refused builtIn name alike⟩

def plainLayout : String := "+ hi\n- hello\n! what"

def airyLayout : String := "// greeting\r\n\n  + hi\t\n\u2003- hello \r\n\n! what  "

theorem airy_layout_does_not_matter :
    countedLines plainLayout.toList = countedLines airyLayout.toList ∧
      (compileSource {} "chat.ss" plainLayout).mapError SourceError.unplaced =
        (compileSource {} "chat.ss" airyLayout).mapError SourceError.unplaced ∧
      ∃ fault, Script.read airyLayout = .error fault ∧ fault.line = 6 ∧
        ∃ prepared culprit, RefusedAlike airyLayout fault prepared culprit ∧
          compileSource {} "chat.ss" airyLayout =
            .error (.refused prepared (String.ofList (trim culprit))) := by
  have builtIn : ({} : Options).reader = Script.read := rfl
  have same : countedLines plainLayout.toList = countedLines airyLayout.toList := by rfl
  have refused : Script.read airyLayout =
      .error ⟨"!", Script.Fault.unknownSigil.message, 6⟩ := by rfl
  exact ⟨same, (layout_does_not_matter builtIn "chat.ss").1 _ _ same, _, refused, rfl,
    (layout_does_not_matter builtIn "chat.ss").2 _ _ refused⟩

end DialogueScript
