import DialogueScript.Proofs.DirectoryRuns
import DialogueScript.Proofs.ShownPaths
import DialogueScript.Proofs.Tables

/- The order of discovery. A directory is left before its next sibling is looked at, so the scripts
   come in the order of the steps of their paths, and none of them comes twice. -/
namespace DialogueScript
open Std

namespace Path

theorem steps_eq (path : Path) :
    path.steps = (path.bytes.splitOn slash).filter fun part => part != [] && part != self := by
  have again : ∀ pieces : List FileName,
      (pieces.filter (!·.isEmpty)).filter (fun part => part != [] && part != self) =
        pieces.filter fun part => part != [] && part != self := by
    intro pieces
    rw [List.filter_filter]
    apply List.filter_congr
    intro part _
    cases part <;> simp
  simp only [steps, parts]
  split
  · rw [List.filter_append, again]
    exact List.append_nil _
  · exact again _

theorem steps_of_slash (before after : List UInt8) :
    steps ⟨before ++ slash :: after⟩ = steps ⟨before⟩ ++ steps ⟨after⟩ := by
  simp only [steps_eq, List.splitOn]
  rw [List.splitOnP_append_cons _ _ (by decide), List.filter_append]

theorem steps_of_name {name : FileName} (named : isName name = true) : steps ⟨name⟩ = [name] := by
  simp only [isName, Bool.and_eq_true, bne_iff_ne, Bool.not_eq_eq_eq_not, Bool.not_true] at named
  obtain ⟨⟨⟨nonempty, noDot⟩, _⟩, noSlash⟩ := named
  have whole : name.splitOn slash = [name] := by
    apply List.splitOnP_eq_singleton
    intro byte member
    simp only [beq_eq_false_iff_ne]
    rintro rfl
    simp [member] at noSlash
  simp [steps_eq, whole, nonempty, noDot]

theorem steps_join (directory : Path) {name : FileName} (named : isName name = true) :
    (directory.join name).steps = directory.steps ++ [name] := by
  simp only [join]
  split
  · rename_i ends
    simp only [endsWithSlash, beq_iff_eq] at ends
    obtain ⟨before, shape⟩ := List.getLast?_eq_some_iff.mp ends
    have written : directory = ⟨before ++ slash :: []⟩ := by
      cases directory
      exact congrArg _ shape
    rw [shape, List.append_assoc, List.singleton_append, steps_of_slash, steps_of_name named,
      written, steps_of_slash]
    simp [steps_eq, List.splitOn]
  · rw [steps_of_slash, steps_of_name named]

end Path

theorem compare_name_lt_iff {first second : FileName} :
    compare first second = .lt ↔ first < second := by
  change List.compareLex compare _ _ = _ ↔ _
  induction first generalizing second with
  | nil => cases second <;> simp [List.compareLex_nil_nil, List.compareLex_nil_cons]
  | cons byte rest ih =>
    cases second with
    | nil => simp [List.compareLex_cons_nil]
    | cons other others =>
      rw [List.compareLex_cons_cons, Ordering.then_eq_lt, ih, List.cons_lt_cons_iff,
        Std.compare_eq_lt, Std.compare_eq_iff_eq]

theorem compare_of_extended (location : Location) (first second : FileName) :
    compare (location ++ [first]) (location ++ [second]) = compare first second := by
  change List.compareLex compare _ _ = _
  induction location with
  | nil =>
    rw [List.nil_append, List.nil_append, List.compareLex_cons_cons]
    simp [List.compareLex_nil_nil]
  | cons part rest ih =>
    rw [List.cons_append, List.cons_append, List.compareLex_cons_cons, ih]
    simp

theorem extended_lt {common : Location} {first second : FileName} (less : first < second)
    (rest other : Location) : common ++ first :: rest < common ++ second :: other := by
  induction common with
  | nil => exact List.cons_lt_cons_iff.mpr (.inl less)
  | cons part common ih => exact List.cons_lt_cons_iff.mpr (.inr ⟨rfl, ih⟩)

theorem mapM_results {ε α β : Type} {change : α → Except ε β} {items : List α} {results : List β}
    {holds : α → β → Prop} (ok : items.mapM change = .ok results)
    (each : ∀ item ∈ items, ∀ result, change item = .ok result → holds item result) :
    List.Forall₂ holds items results := by
  induction items generalizing results with
  | nil =>
    simp only [List.mapM_nil, pure, Except.pure, Except.ok.injEq] at ok
    exact ok ▸ .nil
  | cons item rest ih =>
    simp only [List.mem_cons, forall_eq_or_imp] at each
    simp only [List.mapM_cons, bind_ok_iff, pure, Except.pure, Except.ok.injEq] at ok
    obtain ⟨first, head, others, tail, rfl⟩ := ok
    exact .cons (each.1 first head) (ih tail each.2)

namespace FileTree

variable {tree : FileTree}

theorem entries_ascending (tree : FileTree) (location : Location) :
    (tree.entries location).Pairwise (· < ·) := by
  refine List.Pairwise.filterMap _ ?_ tree.nodes.ordered_keys
  intro first second ordered name isFirst other isSecond
  simp only [Option.ite_none_right_eq_some, List.getLast?_eq_some_iff] at isFirst isSecond
  obtain ⟨⟨_, inside⟩, _, rfl⟩ := isFirst
  obtain ⟨⟨_, alongside⟩, _, rfl⟩ := isSecond
  rw [List.dropLast_concat] at inside alongside
  subst inside alongside
  rw [compare_of_extended] at ordered
  exact compare_name_lt_iff.mp ordered

theorem entry_is_name {location : Location} {name : FileName}
    (member : name ∈ tree.entries location) :
    Path.isName name = true := by
  simp only [entries, List.mem_filterMap, Option.ite_none_right_eq_some] at member
  obtain ⟨key, known, _, last⟩ := member
  have named := tree.named key (ExtTreeMap.mem_keys.mp known)
  exact List.all_eq_true.mp named name (List.mem_of_getLast? last)

structure OrderedBelow (above : Location) (paths : List Path) : Prop where
  below : ∀ path ∈ paths, ∃ rest, Path.steps path = above ++ rest
  ascending : paths.Pairwise fun first second => Path.steps first < Path.steps second

theorem ordered_below_itself (path : Path) : OrderedBelow (Path.steps path) [path] :=
  ⟨by simp, by simp⟩

/-- Lists for ascending names, each ordered below its name, follow one another in order. -/
theorem ordered_below_names {above names : Location} {found : List (List Path)}
    (each : List.Forall₂ (fun name paths => OrderedBelow (above ++ [name]) paths) names found)
    (ascending : names.Pairwise (· < ·)) :
    (∀ path ∈ found.flatten, ∃ name ∈ names, ∃ rest, Path.steps path = above ++ name :: rest) ∧
      found.flatten.Pairwise fun first second => Path.steps first < Path.steps second := by
  induction each with
  | nil => exact ⟨by simp, by simp⟩
  | @cons name paths names found first _ ih =>
    rw [List.pairwise_cons] at ascending
    obtain ⟨named, ordered⟩ := ih ascending.2
    have here : ∀ path ∈ paths, ∃ rest, Path.steps path = above ++ name :: rest := by
      intro path member
      obtain ⟨rest, split⟩ := first.below path member
      exact ⟨rest, by simpa using split⟩
    refine ⟨?_, ?_⟩
    · intro path member
      rw [List.flatten_cons, List.mem_append] at member
      rcases member with inside | later
      · obtain ⟨rest, split⟩ := here path inside
        exact ⟨name, by simp, rest, split⟩
      · obtain ⟨other, known, rest, split⟩ := named path later
        exact ⟨other, by simp [known], rest, split⟩
    · rw [List.flatten_cons, List.pairwise_append]
      refine ⟨first.ascending, ordered, ?_⟩
      intro path inside other later
      obtain ⟨rest, split⟩ := here path inside
      obtain ⟨next, known, more, cut⟩ := named other later
      rw [split, cut]
      exact extended_lt (ascending.1 next known) rest more

theorem filesBelow_ordered {depth : Nat} {here : Ancestor} {outer : List Ancestor}
    {paths : List Path} (ok : tree.filesBelow depth here outer = .ok paths) :
    OrderedBelow (Path.steps here.path) paths := by
  induction depth generalizing here outer paths with
  | zero =>
    simp only [filesBelow, Except.ok.injEq] at ok
    subst ok
    exact ⟨by simp, by simp⟩
  | succ depth ih =>
    -- Every entry is a file at its own path or a directory, whose files lie below that path.
    rw [filesBelow] at ok
    split at ok
    · simp [bind, Except.bind] at ok
    · simp only [bind_ok_iff, pure, Except.pure, Except.ok.injEq] at ok
      obtain ⟨found, each, rfl⟩ := ok
      have ordered : List.Forall₂
          (fun name paths => OrderedBelow (Path.steps here.path ++ [name]) paths)
          (tree.entries here.location) found := by
        refine mapM_results each ?_
        intro name member paths looked
        have steps := Path.steps_join here.path (entry_is_name member)
        obtain ⟨node, _, entered⟩ := bind_ok_iff.mp looked
        cases node with
        | file =>
          simp only [Except.ok.injEq] at entered
          rw [← entered, ← steps]
          exact ordered_below_itself _
        | directory location =>
          have below := ih entered
          rwa [steps] at below
      obtain ⟨named, ascending⟩ :=
        ordered_below_names ordered (tree.entries_ascending here.location)
      refine ⟨?_, ascending⟩
      intro path member
      obtain ⟨name, _, rest, split⟩ := named path member
      exact ⟨name :: rest, split⟩

/-- The scripts of a directory come in the order of the steps of their paths. -/
theorem discovered_ascending {root : Path} {extension : String} {paths : List Path}
    (ok : tree.discover root extension = .ok paths) :
    paths.Pairwise fun first second => Path.steps first < Path.steps second := by
  obtain ⟨all, walked, rfl⟩ := map_ok_iff.mp ok
  refine List.Pairwise.filter _ ?_
  simp only [files] at walked
  split at walked
  · simp at walked
  · obtain ⟨node, _, entered⟩ := bind_ok_iff.mp walked
    cases node with
    | file =>
      simp only [pure, Except.pure, Except.ok.injEq] at entered
      exact entered ▸ (ordered_below_itself root).ascending
    | directory location => exact (filesBelow_ordered entered).ascending

theorem ascending_nodup {paths : List Path}
    (ascending : paths.Pairwise fun first second => Path.steps first < Path.steps second) :
    paths.Nodup := by
  refine ascending.imp ?_
  rintro first second less rfl
  exact List.lt_irrefl _ less

theorem discovered_below {root : Path} {extension : String} {location : Location} {depth : Nat}
    {paths : List Path} (start : tree.resolve root { followLast := false } = .ok location)
    (entered : tree.inspect [] location root = .ok (.directory location))
    (limit : tree.depthLimit = depth)
    (walked : tree.filesBelow depth ⟨location, root⟩ [] = .ok paths)
    (scripts : paths.filter (hasExtension extension) = paths) :
    tree.discover root extension = .ok paths := by
  simp only [discover, files, start, bind_of_ok, entered, limit, walked, Except.map, scripts]

end FileTree

theorem sample_paths_shown_apart : Path.ShownApart samplePaths := by
  apply Path.shownApart_of_text
  simp [samplePaths]

end DialogueScript
