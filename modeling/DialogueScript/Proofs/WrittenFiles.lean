import DialogueScript.Files.Tree
import DialogueScript.Proofs.DirectoryRuns
import DialogueScript.Proofs.TextCuts

/- Writing a file. Exactly one location changes, the path leads to it afterwards, and every path
   that led somewhere before still leads there. -/
namespace DialogueScript
open Std

namespace Path

theorem parts_ne_nil (path : Path) : parts path ≠ [] := by
  simp only [parts]
  split
  · simp
  · rename_i solid
    cases last : (path.bytes.splitOn slash).getLast? with
    | none => exact absurd (List.getLast?_eq_none_iff.mp last) (List.splitOn_ne_nil _ _)
    | some piece =>
      have nonempty : piece ≠ [] := by
        rintro rfl
        exact solid last
      have left : piece ∈ (path.bytes.splitOn slash).filter (!·.isEmpty) :=
        List.mem_filter.mpr ⟨List.mem_of_getLast? last, by simpa using nonempty⟩
      exact List.ne_nil_of_mem left

def NoSlash (parts : List FileName) : Prop := ∀ part ∈ parts, slash ∉ part

theorem parts_noSlash (path : Path) : NoSlash (parts path) := by
  have pieces : ∀ piece ∈ path.bytes.splitOn slash, slash ∉ piece := by
    intro piece isPiece inside
    rw [List.splitOn_eq_splitOnP] at isPiece
    exact absurd (Text.split_part isPiece _ inside).2 (by decide)
  have names : NoSlash ((path.bytes.splitOn slash).filter (!·.isEmpty)) :=
    fun part member => pieces part (List.mem_filter.mp member).1
  simp only [parts]
  split
  · intro part member
    rcases List.mem_append.mp member with named | empty
    · exact names part named
    · rw [List.mem_singleton.mp empty]
      exact List.not_mem_nil
  · exact names

end Path

namespace FileTree

variable {tree after : FileTree} {location other here : Location} {path : Path}
  {content : List UInt8} {mode : Mode}

/-- One file is written, new or in place of another, and all else stays. -/
structure Writes (tree : FileTree) (location : Location) (content : List UInt8)
    (after : FileTree) : Prop where
  home : after.home = tree.home
  here : after.node? location = some (.file content)
  elsewhere : ∀ other, other ≠ location → after.node? other = tree.node? other
  before : ∀ node, tree.node? location = some node → ∃ old, node = .file old
  grows : tree.nodes.size ≤ after.nodes.size

theorem Writes.same_home (writes : tree.Writes location content after) (path : Path) :
    after.start path = tree.start path := by
  unfold start
  rw [writes.home]

theorem Writes.keeps_directory (writes : tree.Writes location content after)
    (directory : tree.node? other = some .directory) : after.node? other = some .directory := by
  rw [writes.elsewhere other, directory]
  rintro rfl
  obtain ⟨old, same⟩ := writes.before _ directory
  cases same

theorem Writes.keeps_link (writes : tree.Writes location content after) {target : Path}
    (link : tree.node? other = some (.link target)) : after.node? other = some (.link target) := by
  rw [writes.elsewhere other, link]
  rintro rfl
  obtain ⟨old, same⟩ := writes.before _ link
  cases same

theorem Writes.keeps_file (writes : tree.Writes location content after) {old : List UInt8}
    (file : tree.node? other = some (.file old)) :
    after.node? other = some (.file (if other = location then content else old)) := by
  by_cases same : other = location
  · rw [same, writes.here]
    simp
  · rw [writes.elsewhere other same, file]
    simp [same]

theorem follow_name {part : FileName} {rest : List FileName}
    (inside : tree.node? here = some .directory) (solid : ¬ (part = [] ∨ part = Path.self))
    (down : ¬ part = Path.above) (short : ¬ Path.nameBytes < part.length) (last : Bool) :
    tree.follow { followLast := last } here (part :: rest) =
      match tree.node? (here ++ [part]) with
      | none => .error .notFound
      | some (.link target) =>
        if rest.isEmpty && !last then .ok (.reached (here ++ [part])) else .ok (.link target rest)
      | some _ => tree.follow { followLast := last } (here ++ [part]) rest := by
  rw [FileTree.follow, if_neg (not_not_intro inside), if_neg solid, if_neg down,
    if_neg (by simp), if_neg short]
  rfl

/-- A walk along a path that leads somewhere leads there still. It may end at a new name only if
that is the one which has been written. -/
theorem Writes.follow (writes : tree.Writes location content after) {parts : List FileName}
    {stop : Stop} (ok : tree.follow mode here parts = .ok stop)
    (new : ∀ reached, stop = .reached reached → tree.node? reached = none →
      mode.allowNew = true → reached = location) :
    after.follow { mode with allowNew := false } here parts = .ok stop := by
  fun_induction FileTree.follow tree mode here parts with
  | case1 => exact ok
  | case3 here part rest inside idle ih =>
    rw [FileTree.follow, if_neg (not_not_intro (writes.keeps_directory (not_not.mp inside))),
      if_pos idle]
    exact ih ok
  | case4 here rest inside _ ih =>
    rw [FileTree.follow, if_neg (not_not_intro (writes.keeps_directory (not_not.mp inside))),
      if_neg (by decide), if_pos rfl]
    exact ih ok
  | case7 here part rest inside solid down _ short met isNew =>
    rw [follow_name (writes.keeps_directory (not_not.mp inside)) solid down short]
    simp only [Bool.and_eq_true, List.isEmpty_iff] at isNew
    cases ok
    simp only [new _ rfl met isNew.1, writes.here, isNew.2]
    rfl
  | case9 here part rest inside solid down _ short target met stays =>
    rw [follow_name (writes.keeps_directory (not_not.mp inside)) solid down short]
    simp only [writes.keeps_link met, stays]
    exact ok
  | case10 here part rest inside solid down _ short target met goes =>
    rw [follow_name (writes.keeps_directory (not_not.mp inside)) solid down short]
    simp only [writes.keeps_link met, goes]
    exact ok
  | case11 here part rest inside solid down _ short node noLink met ih =>
    rw [follow_name (writes.keeps_directory (not_not.mp inside)) solid down short]
    cases node with
    | file old => simpa only [writes.keeps_file met] using ih ok
    | directory => simpa only [writes.keeps_directory met] using ih ok
    | link target => exact absurd rfl (noLink target)
  | _ => cases ok

theorem Writes.resolveFrom (writes : tree.Writes location content after) {links : Nat}
    {parts : List FileName} {reached : Location}
    (ok : tree.resolveFrom mode links here parts = .ok reached)
    (new : tree.node? reached = none → mode.allowNew = true → reached = location) :
    after.resolveFrom { mode with allowNew := false } links here parts = .ok reached := by
  fun_induction FileTree.resolveFrom tree mode links here parts with
  | case1 => cases ok
  | case2 _ _ _ _ walked =>
    cases ok
    have again := writes.follow walked fun _ same => by cases same; exact new
    unfold FileTree.resolveFrom
    simp only [again]
  | case3 => cases ok
  | case4 _ _ _ _ links walked ih =>
    have again := writes.follow walked fun _ same => by cases same
    unfold FileTree.resolveFrom
    simp only [again, writes.same_home]
    exact ih ok

theorem Writes.resolve (writes : tree.Writes location content after) {reached : Location}
    (ok : tree.resolve path mode = .ok reached)
    (new : tree.node? reached = none → mode.allowNew = true → reached = location) :
    after.resolve path { mode with allowNew := false } = .ok reached := by
  unfold FileTree.resolve at ok ⊢
  split at ok
  · cases ok
  · rename_i clean
    split at ok
    · cases ok
    · rename_i filled
      split at ok
      · cases ok
      · rename_i short
        rw [if_neg clean, if_neg filled, if_neg short, writes.same_home]
        exact writes.resolveFrom ok new

theorem Writes.resolve_existing (writes : tree.Writes location content after) {reached : Location}
    {followLast : Bool} (ok : tree.resolve path { followLast } = .ok reached) :
    after.resolve path { followLast } = .ok reached :=
  writes.resolve ok fun _ new => by simp at new

theorem Writes.resolve_target (writes : tree.Writes location content after)
    (target : tree.resolve path { allowNew := true } = .ok location) :
    after.resolve path = .ok location :=
  writes.resolve target fun _ _ => rfl

theorem Writes.read_target (writes : tree.Writes location content after)
    (target : tree.resolve path { allowNew := true } = .ok location) :
    after.read path = .ok content := by
  simp only [read, writes.resolve_target target, bind_of_ok, writes.here]

theorem read_ok_iff : tree.read path = .ok content ↔
    ∃ location, tree.resolve path = .ok location ∧ tree.node? location = some (.file content) := by
  simp only [read, bind_ok_iff]
  constructor
  · rintro ⟨location, resolved, found⟩
    split at found
    · rename_i file
      cases found
      exact ⟨location, resolved, file⟩
    · cases found
    · cases found
  · rintro ⟨location, resolved, file⟩
    exact ⟨location, resolved, by simp only [file]⟩

/-- What could be read can be read, and it is what it was unless its path leads to the new file. -/
theorem Writes.read_existing (writes : tree.Writes location content after) {old : List UInt8}
    (readable : tree.read path = .ok old) :
    tree.resolve path = .ok location ∧ after.read path = .ok content ∨
      after.read path = .ok old := by
  obtain ⟨reached, resolved, file⟩ := read_ok_iff.mp readable
  have there := writes.keeps_file file
  by_cases same : reached = location
  · rw [if_pos same] at there
    exact .inl ⟨same ▸ resolved, read_ok_iff.mpr ⟨reached, writes.resolve_existing resolved, there⟩⟩
  · rw [if_neg same] at there
    exact .inr (read_ok_iff.mpr ⟨reached, writes.resolve_existing resolved, there⟩)

section Locations

def Named (location : Location) : Prop := location.all Path.isName = true

theorem named_of_node {node : FileNode} (found : tree.node? location = some node) :
    Named location := by
  cases location with
  | nil => rfl
  | cons name rest =>
    apply tree.named
    have held : tree.nodes[name :: rest]? = some node := found
    exact ExtTreeMap.mem_iff_isSome_getElem?.mpr (by rw [held]; rfl)

theorem Named.dropLast (named : Named location) : Named location.dropLast := by
  rw [Named, List.all_eq_true] at named ⊢
  intro name member
  exact named name (List.dropLast_subset _ member)

theorem Named.extend (named : Named location) {part : FileName}
    (solid : ¬ (part = [] ∨ part = Path.self)) (down : ¬ part = Path.above)
    (whole : Path.slash ∉ part) : Named (location ++ [part]) := by
  simp only [Named, List.all_append, Bool.and_eq_true]
  refine ⟨named, ?_⟩
  simp only [not_or] at solid
  simp [Path.isName, solid, down, whole]

/-- A walk has ended at names of entries, or what is left of it has parts without slashes. -/
def Stop.Plain : Stop → Prop
  | .reached location => Named location
  | .link _ rest => Path.NoSlash rest

theorem follow_plain {parts : List FileName} {stop : Stop} (whole : Path.NoSlash parts)
    (ok : tree.follow mode here parts = .ok stop) (starts : Named here ∨ parts ≠ []) :
    stop.Plain := by
  fun_induction FileTree.follow tree mode here parts with
  | case1 here =>
    cases ok
    exact starts.resolve_right (not_not_intro rfl)
  | case3 here part rest inside _ ih =>
    apply ih (List.forall_mem_cons.mp whole).2 ok
    exact .inl (named_of_node (not_not.mp inside))
  | case4 here rest inside _ ih =>
    apply ih (List.forall_mem_cons.mp whole).2 ok
    exact .inl (named_of_node (not_not.mp inside)).dropLast
  | case7 here part rest inside solid down | case9 here part rest inside solid down =>
    cases ok
    exact (named_of_node (not_not.mp inside)).extend solid down (List.forall_mem_cons.mp whole).1
  | case10 here part rest =>
    cases ok
    exact (List.forall_mem_cons.mp whole).2
  | case11 here part rest inside solid down _ _ _ _ _ ih =>
    obtain ⟨whole_part, whole_rest⟩ := List.forall_mem_cons.mp whole
    apply ih whole_rest ok
    exact .inl ((named_of_node (not_not.mp inside)).extend solid down whole_part)
  | _ => cases ok

theorem resolveFrom_named {links : Nat} {parts : List FileName} {reached : Location}
    (whole : Path.NoSlash parts) (some : parts ≠ [])
    (ok : tree.resolveFrom mode links here parts = .ok reached) : Named reached := by
  fun_induction resolveFrom tree mode links here parts with
  | case1 => cases ok
  | case2 _ _ _ _ walked =>
    cases ok
    exact follow_plain whole walked (.inr some)
  | case3 => cases ok
  | case4 _ _ target rest links walked ih =>
    have plain := follow_plain whole walked (.inr some)
    apply ih _ _ ok
    · intro part member
      rcases List.mem_append.mp member with first | second
      · exact Path.parts_noSlash target part first
      · exact plain part second
    · intro nothing
      exact Path.parts_ne_nil target (List.append_eq_nil_iff.mp nothing).1

theorem resolve_named {reached : Location} (ok : tree.resolve path mode = .ok reached) :
    Named reached := by
  unfold resolve at ok
  split at ok
  · cases ok
  · split at ok
    · cases ok
    · split at ok
      · cases ok
      · exact resolveFrom_named (Path.parts_noSlash path) (Path.parts_ne_nil path) ok

end Locations

theorem put_writes (named : Named location) (solid : ∀ node, tree.node? location = some node →
    ∃ old, node = .file old) :
    tree.Writes location content (tree.put location (.file content)) := by
  have filled : location ≠ [] := by
    rintro rfl
    obtain ⟨old, same⟩ := solid .directory rfl
    cases same
  have nodes : (tree.put location (.file content)).nodes =
      tree.nodes.insert location (.file content) := by
    simp only [put, Named] at named ⊢
    rw [dif_pos named]
  refine ⟨?_, ?_, ?_, solid, ?_⟩
  · simp only [put]
    split <;> rfl
  · cases location with
    | nil => exact absurd rfl filled
    | cons name rest =>
      simp only [node?, nodes]
      exact ExtTreeMap.getElem?_insert_self
  · intro other different
    cases other with
    | nil => rfl
    | cons name rest =>
      simp only [node?, nodes, ExtTreeMap.getElem?_insert, Std.compare_eq_iff_eq]
      rw [if_neg (Ne.symm different)]
  · rw [nodes]
    exact ExtTreeMap.size_le_size_insert

theorem writable_spec (ok : tree.writable path = .ok location) :
    tree.resolve path { allowNew := true } = .ok location ∧
      ∀ content, tree.Writes location content (tree.put location (.file content)) := by
  obtain ⟨place, target, free⟩ := bind_ok_iff.mp ok
  have solid : ∀ node, tree.node? place = some node → ∃ old, node = .file old := by
    intro node met
    cases node with
    | file old => exact ⟨old, rfl⟩
    | directory => simp [met] at free
    | link text => simp [met] at free
  have same : place = location := by
    split at free
    · exact Except.ok.inj free
    · exact Except.ok.inj free
    · cases free
  subst same
  exact ⟨target, fun content => put_writes (resolve_named target) solid⟩

/-- What becomes of a file that is to be written: nothing, or it is written to its end, or the disk
fails and the beginning is there. Only the one file changes to which the path leads. -/
inductive Stored (disk : Disk) (tree : FileTree) (path : Path) (content : List UInt8) :
    FileTree × Option FileFault → Prop
  | refused {fault : FileFault} (refused : tree.writable path = .error fault) :
    Stored disk tree path content (tree, some fault)
  | whole {location : Location} {after : FileTree}
    (target : tree.resolve path { allowNew := true } = .ok location)
    (uncut : disk.cut? location content = none) (writes : tree.Writes location content after) :
    Stored disk tree path content (after, none)
  | cut {location : Location} {after : FileTree} {cut : Cut}
    (target : tree.resolve path { allowNew := true } = .ok location)
    (broken : disk.cut? location content = some cut)
    (writes : tree.Writes location (content.take cut.kept) after) :
    Stored disk tree path content (after, some cut.fault)

theorem store_spec (disk : Disk) (tree : FileTree) (path : Path) (content : List UInt8) :
    Stored disk tree path content (tree.store disk path content) := by
  unfold store
  cases writable : tree.writable path with
  | error fault => exact .refused writable
  | ok location =>
    obtain ⟨target, writes⟩ := writable_spec writable
    dsimp only
    cases broken : disk.cut? location content with
    | none => exact .whole target broken (writes _)
    | some cut => exact .cut target broken (writes _)

theorem exists_of_target {old : List UInt8}
    (target : tree.resolve path { allowNew := true } = .ok location)
    (file : tree.node? location = some (.file old)) : tree.pathExists path = true := by
  have idle : tree.Writes location old tree :=
    ⟨rfl, file, fun _ _ => rfl, by simp [file], Nat.le_refl _⟩
  rw [pathExists, idle.resolve_target target]
  rfl

end FileTree

end DialogueScript
