import DialogueScript.Proofs.Discovery
import DialogueScript.Proofs.WrittenFiles

/- Discovery after a file is written. The walk has depth enough for every way down, so the scripts
   that were found before are found again. -/
namespace DialogueScript
open Std

theorem filter_shorter {α : Type} {few many : α → Bool} {items : List α} {item : α}
    (fewer : ∀ item, few item = true → many item = true) (member : item ∈ items)
    (gone : few item = false) (there : many item = true) :
    (items.filter few).length < (items.filter many).length := by
  have twice : items.filter few = (items.filter many).filter few := by
    rw [List.filter_filter]
    apply List.filter_congr
    intro item _
    cases kept : few item with
    | false => rfl
    | true => rw [fewer item kept, Bool.and_self]
  rw [twice, List.length_filter_lt_length_iff_exists]
  exact ⟨item, List.mem_filter.mpr ⟨member, there⟩, by simp [gone]⟩

theorem mapM_ok_iff {ε α β : Type} {change : α → Except ε β} {items : List α} :
    (∃ results, items.mapM change = .ok results) ↔
      ∀ item ∈ items, ∃ result, change item = .ok result := by
  induction items with
  | nil => exact iff_of_true ⟨[], rfl⟩ (by simp)
  | cons item rest ih =>
    rw [List.forall_mem_cons, ← ih]
    simp only [List.mapM_cons, bind_ok_iff, pure, Except.pure, Except.ok.injEq]
    constructor
    · rintro ⟨_, first, head, others, tail, rfl⟩
      exact ⟨⟨first, head⟩, others, tail⟩
    · rintro ⟨⟨first, head⟩, others, tail⟩
      exact ⟨_, first, head, others, tail, rfl⟩

theorem mem_flatten_mapM {ε α β : Type} {change : α → Except ε (List β)} {items : List α}
    {results : List (List β)} (ok : items.mapM change = .ok results) {value : β} :
    value ∈ results.flatten ↔ ∃ item ∈ items, ∃ part, change item = .ok part ∧ value ∈ part := by
  induction items generalizing results with
  | nil =>
    simp only [List.mapM_nil, pure, Except.pure, Except.ok.injEq] at ok
    simp [← ok]
  | cons item rest ih =>
    simp only [List.mapM_cons, bind_ok_iff, pure, Except.pure, Except.ok.injEq] at ok
    obtain ⟨first, head, others, tail, rfl⟩ := ok
    simp [ih tail, head]

namespace FileTree

variable {tree after : FileTree} {location here : Location} {path : Path} {name : FileName}
  {content : List UInt8}

theorem mem_nodes_iff (solid : location ≠ []) :
    location ∈ tree.nodes ↔ (tree.node? location).isSome = true := by
  cases location with
  | nil => exact absurd rfl solid
  | cons name rest => exact ExtTreeMap.mem_iff_isSome_getElem?

theorem mem_entries : name ∈ tree.entries here ↔ (tree.node? (here ++ [name])).isSome = true := by
  rw [← mem_nodes_iff (by simp), ← ExtTreeMap.mem_keys]
  simp only [entries, List.mem_filterMap, Option.ite_none_right_eq_some, List.getLast?_eq_some_iff]
  constructor
  · rintro ⟨key, known, ⟨_, inside⟩, before, rfl⟩
    rw [List.dropLast_concat] at inside
    exact inside ▸ known
  · intro known
    exact ⟨_, known, ⟨by simp, by simp⟩, here, rfl⟩

section Depth

def places (tree : FileTree) : List Location := [] :: tree.nodes.keys

theorem mem_places {node : FileNode} (found : tree.node? location = some node) :
    location ∈ tree.places := by
  by_cases root : location = []
  · simp [places, root]
  · have known := (mem_nodes_iff root).mpr (by rw [found]; rfl)
    simp [places, known]

def isOff (way : List Ancestor) (place : Location) : Bool :=
  !(way.map (·.location)).contains place

theorem isOff_iff {way : List Ancestor} : isOff way location = true ↔
    location ∉ way.map (·.location) := by
  simp [isOff]

theorem isOff_of_longer {next : Ancestor} {way : List Ancestor}
    (off : isOff (next :: way) location = true) : isOff way location = true := by
  rw [isOff_iff] at off ⊢
  exact fun on => off (List.mem_cons_of_mem _ on)

def offWay (tree : FileTree) (way : List Ancestor) : Nat := (tree.places.filter (isOff way)).length

def inside (tree : FileTree) (location : Location) : Nat :=
  (tree.nodes.keys.filter fun key => location.isPrefixOf key && key != location).length

/-- How much further a way can go. A link leads to a place that is not on the way, and whatever else
is entered has less inside. -/
def room (tree : FileTree) (here : Ancestor) (outer : List Ancestor) : Nat :=
  tree.offWay (here :: outer) * (tree.nodes.size + 1) + tree.inside here.location

theorem inside_le (tree : FileTree) (location : Location) :
    tree.inside location ≤ tree.nodes.size := by
  rw [← ExtTreeMap.length_keys]
  exact List.length_filter_le _ _

theorem inside_child {node : FileNode} (found : tree.node? (location ++ [name]) = some node) :
    tree.inside (location ++ [name]) < tree.inside location := by
  have known : location ++ [name] ∈ tree.nodes.keys :=
    ExtTreeMap.mem_keys.mpr ((mem_nodes_iff (by simp)).mpr (by rw [found]; rfl))
  refine filter_shorter ?_ known (by simp) (by simp)
  intro key deeper
  simp only [Bool.and_eq_true, List.isPrefixOf_iff_prefix, bne_iff_ne] at deeper ⊢
  refine ⟨(List.prefix_append _ _).trans deeper.1, ?_⟩
  rintro rfl
  have short := deeper.1.length_le
  rw [List.length_append, List.length_singleton] at short
  omega

theorem offWay_of_step (tree : FileTree) (next : Ancestor) (way : List Ancestor) :
    tree.offWay (next :: way) ≤ tree.offWay way := by
  apply List.Sublist.length_le
  apply List.monotone_filter_right
  exact fun _ => isOff_of_longer

theorem offWay_of_link {next : Ancestor} {way : List Ancestor} {node : FileNode}
    (found : tree.node? next.location = some node) (fresh : isOff way next.location = true) :
    tree.offWay (next :: way) < tree.offWay way :=
  filter_shorter (fun _ => isOff_of_longer) (mem_places found) (by simp [isOff]) fresh

theorem inspect_directory {way : List Ancestor} {place : Location}
    (entered : tree.inspect way location path = .ok (.directory place)) :
    tree.node? place = some .directory ∧
      (place = location ∨ isOff way place = true) := by
  unfold inspect at entered
  split at entered
  · cases entered
  · cases entered
  · rename_i directory
    cases entered
    exact ⟨directory, .inl rfl⟩
  · split at entered
    · cases entered
    · split at entered
      · cases entered
      · rename_i directory fresh
        cases entered
        refine ⟨directory, .inr ?_⟩
        simp only [List.find?_eq_none, beq_iff_eq] at fresh
        simpa [isOff_iff] using fresh
      · cases entered

theorem room_shrinks {here : Ancestor} {outer : List Ancestor} {place : Location}
    (entered : tree.inspect (here :: outer) (here.location ++ [name]) path =
      .ok (.directory place)) :
    tree.room ⟨place, path⟩ (here :: outer) < tree.room here outer := by
  obtain ⟨directory, direct | fresh⟩ := inspect_directory entered
  · subst direct
    have step := tree.offWay_of_step ⟨here.location ++ [name], path⟩ (here :: outer)
    have less := inside_child directory
    have scaled := Nat.mul_le_mul_right (tree.nodes.size + 1) step
    simp only [room]
    omega
  · have step := @offWay_of_link tree ⟨place, path⟩ (here :: outer) _ directory fresh
    have bound := tree.inside_le place
    have scaled := Nat.mul_le_mul_right (tree.nodes.size + 1) step
    rw [Nat.succ_mul] at scaled
    simp only [room]
    omega

theorem room_at_root {here : Ancestor} {node : FileNode}
    (found : tree.node? here.location = some node) : tree.room here [] < tree.depthLimit := by
  have bound := tree.inside_le here.location
  have whole : tree.offWay [] = tree.nodes.size + 1 := by
    have all : tree.places.filter (isOff []) = tree.places :=
      List.filter_eq_self.mpr fun _ _ => rfl
    rw [offWay, all]
    simp [places]
  have step := @offWay_of_link tree here [] node found rfl
  have scaled : tree.offWay [here] * (tree.nodes.size + 1) ≤
      tree.nodes.size * (tree.nodes.size + 1) := Nat.mul_le_mul_right _ (by omega)
  simp only [room, depthLimit, Nat.add_mul, Nat.mul_add] at scaled ⊢
  omega

end Depth

theorem Writes.mem_entries (writes : tree.Writes location content after)
    (member : name ∈ after.entries here) :
    name ∈ tree.entries here ∨ here ++ [name] = location := by
  by_cases same : here ++ [name] = location
  · exact .inr same
  · rw [FileTree.mem_entries, writes.elsewhere _ same] at member
    exact .inl (FileTree.mem_entries.mpr member)

theorem Writes.entries_kept (writes : tree.Writes location content after)
    (member : name ∈ tree.entries here) : name ∈ after.entries here := by
  by_cases same : here ++ [name] = location
  · rw [FileTree.mem_entries, same, writes.here]
    rfl
  · rw [FileTree.mem_entries] at member ⊢
    rwa [writes.elsewhere _ same]

theorem Writes.inspect (writes : tree.Writes location content after) {way : List Ancestor}
    {found : Found} (ok : tree.inspect way here path = .ok found) :
    after.inspect way here path = .ok found := by
  unfold FileTree.inspect at ok ⊢
  cases met : tree.node? here with
  | none => simp [met] at ok
  | some node =>
    cases node with
    | file old =>
      simp only [met] at ok
      simpa only [writes.keeps_file met] using ok
    | directory =>
      simp only [met] at ok
      simpa only [writes.keeps_directory met] using ok
    | link text =>
      simp only [met] at ok
      simp only [writes.keeps_link met]
      cases resolved : tree.resolve path with
      | error fault => simp [resolved] at ok
      | ok target =>
        simp only [resolved] at ok
        simp only [writes.resolve_existing resolved]
        by_cases directory : tree.node? target = some .directory
        · rw [directory] at ok
          rwa [writes.keeps_directory directory]
        · have still : after.node? target ≠ some .directory := by
            by_cases same : target = location
            · simp [same, writes.here]
            · rwa [writes.elsewhere _ same]
          split at ok
          · rename_i directory' _
            exact absurd directory' directory
          · rename_i directory' _
            exact absurd directory' directory
          · split
            · rename_i directory' _
              exact absurd directory' still
            · rename_i directory' _
              exact absurd directory' still
            · exact ok

def visit (tree : FileTree) (depth : Nat) (here : Ancestor) (outer : List Ancestor)
    (name : FileName) : Except WalkFault (List Path) := do
  let path := Path.join here.path name
  match ← tree.inspect (here :: outer) (here.location ++ [name]) path with
  | .file => return [path]
  | .directory location => tree.filesBelow depth ⟨location, path⟩ (here :: outer)

theorem filesBelow_ok_iff {depth : Nat} {here : Ancestor} {outer : List Ancestor}
    {paths : List Path} : tree.filesBelow (depth + 1) here outer = .ok paths ↔
      Path.isTooLong here.path = false ∧ ∃ found,
        (tree.entries here.location).mapM (tree.visit depth here outer) = .ok found ∧
          found.flatten = paths := by
  rw [filesBelow]
  cases long : Path.isTooLong here.path with
  | true => simp [bind, Except.bind]
  | false =>
    simp only [Bool.false_eq_true, ↓reduceIte, true_and]
    exact map_ok_iff

theorem Writes.visit (writes : tree.Writes location content after) {depth later : Nat}
    {here : Ancestor} {outer : List Ancestor} {paths : List Path}
    (below : ∀ place, tree.inspect (here :: outer) (here.location ++ [name])
      (Path.join here.path name) = .ok (.directory place) → ∀ paths,
      tree.filesBelow depth ⟨place, Path.join here.path name⟩ (here :: outer) = .ok paths →
      ∃ found, after.filesBelow later ⟨place, Path.join here.path name⟩ (here :: outer) =
        .ok found ∧ paths ⊆ found)
    (ok : tree.visit depth here outer name = .ok paths) :
    ∃ found, after.visit later here outer name = .ok found ∧ paths ⊆ found := by
  obtain ⟨seen, looked, entered⟩ := bind_ok_iff.mp ok
  have again := writes.inspect looked
  unfold FileTree.visit
  simp only [again, bind_of_ok]
  cases seen with
  | file => exact ⟨paths, entered, List.Subset.refl _⟩
  | directory place => exact below place looked paths entered

theorem Writes.visit_new (writes : tree.Writes location content after) {here : Ancestor}
    (new : here.location ++ [name] = location) (depth : Nat) (outer : List Ancestor) :
    after.visit depth here outer name = .ok [Path.join here.path name] := by
  have looked : after.inspect (here :: outer) location (Path.join here.path name) =
      .ok .file := by
    simp only [FileTree.inspect, writes.here]
  simp only [FileTree.visit, new, looked, bind_of_ok]
  rfl

/-- A walk with depth enough still succeeds, and finds what it found. -/
theorem Writes.filesBelow (writes : tree.Writes location content after) {depth later : Nat}
    {here : Ancestor} {outer : List Ancestor} {paths : List Path}
    (enough : tree.room here outer < depth) (more : depth ≤ later)
    (ok : tree.filesBelow depth here outer = .ok paths) :
    ∃ found, after.filesBelow later here outer = .ok found ∧ paths ⊆ found := by
  induction depth generalizing later here outer paths with
  | zero => omega
  | succ depth ih =>
    obtain ⟨later, rfl⟩ : ∃ n, later = n + 1 := ⟨later - 1, by omega⟩
    obtain ⟨short, parts, each, rfl⟩ := filesBelow_ok_iff.mp ok
    have kept : ∀ name paths, tree.visit depth here outer name = .ok paths →
        ∃ found, after.visit later here outer name = .ok found ∧ paths ⊆ found := by
      intro name paths visited
      apply writes.visit _ visited
      intro place entered paths walked
      have less := room_shrinks entered
      exact ih (by omega) (by omega) walked
    have succeeds : ∀ name ∈ after.entries here.location,
        ∃ found, after.visit later here outer name = .ok found := by
      intro name member
      rcases writes.mem_entries member with old | new
      · obtain ⟨part, visited⟩ := mapM_ok_iff.mp ⟨parts, each⟩ name old
        obtain ⟨found, again, _⟩ := kept name part visited
        exact ⟨found, again⟩
      · exact ⟨_, writes.visit_new new later outer⟩
    obtain ⟨found, all⟩ := mapM_ok_iff.mpr succeeds
    refine ⟨found.flatten, filesBelow_ok_iff.mpr ⟨short, found, all, rfl⟩, ?_⟩
    intro path member
    obtain ⟨name, old, part, visited, inside⟩ := (mem_flatten_mapM each).mp member
    obtain ⟨wider, again, subset⟩ := kept name part visited
    exact (mem_flatten_mapM all).mpr
      ⟨name, writes.entries_kept old, wider, again, subset inside⟩

theorem Writes.files (writes : tree.Writes location content after) {root : Path}
    {paths : List Path} (ok : tree.files root = .ok paths) :
    ∃ found, after.files root = .ok found ∧ paths ⊆ found := by
  unfold FileTree.files at ok ⊢
  cases resolved : tree.resolve root { followLast := false } with
  | error fault => simp [resolved] at ok
  | ok place =>
    simp only [resolved] at ok
    simp only [writes.resolve_existing resolved]
    obtain ⟨seen, looked, entered⟩ := bind_ok_iff.mp ok
    simp only [writes.inspect looked, bind_of_ok]
    cases seen with
    | file => exact ⟨paths, entered, List.Subset.refl _⟩
    | directory start =>
      have room : tree.room ⟨start, root⟩ [] < tree.depthLimit :=
        room_at_root (inspect_directory looked).1
      have grown : tree.depthLimit ≤ after.depthLimit :=
        Nat.mul_le_mul (Nat.add_le_add_right writes.grows 1) (Nat.add_le_add_right writes.grows 2)
      exact writes.filesBelow room grown entered

theorem Writes.discover (writes : tree.Writes location content after) {root : Path}
    {extension : String} {paths : List Path} (ok : tree.discover root extension = .ok paths) :
    ∃ found, after.discover root extension = .ok found ∧ paths ⊆ found := by
  obtain ⟨all, walked, rfl⟩ := map_ok_iff.mp ok
  obtain ⟨found, again, subset⟩ := writes.files walked
  refine ⟨_, map_ok_iff.mpr ⟨found, again, rfl⟩, ?_⟩
  intro path member
  obtain ⟨listed, fits⟩ := List.mem_filter.mp member
  exact List.mem_filter.mpr ⟨subset listed, fits⟩

end FileTree

end DialogueScript
