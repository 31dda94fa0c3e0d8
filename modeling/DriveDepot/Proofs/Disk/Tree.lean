import Mathlib.Data.List.Induction
import DriveDepot.Proofs.Disk.Refusals

namespace DriveDepot.Disk

/-- Whatever there is lies in a directory, under a name that is one. -/
structure Tree (disk : Disk) : Prop where
  parent : ∀ place name node, disk.node? (place ++ [name]) = some node →
    disk.node? place = some .directory
  named : ∀ place name node, disk.node? (place ++ [name]) = some node →
    tooLong name = false ∧ name ≠ ".."

/-- The entries tell whether a disk is a tree. -/
theorem Tree.of_entries {disk : Disk}
    (h : ∀ entry ∈ disk.entries, disk.node? entry.1.dropLast = some .directory ∧
      ∀ name ∈ entry.1.getLast?, tooLong name = false ∧ name ≠ "..") : disk.Tree := by
  have entry (place : Place) (name : String) (node : Node)
      (there : disk.node? (place ++ [name]) = some node) :
      disk.node? place = some .directory ∧ tooLong name = false ∧ name ≠ ".." := by
    rw [node?, if_neg (by simp), List.lookup_eq_some_iff] at there
    obtain ⟨before, after, entries, _⟩ := there
    have holds := h (place ++ [name], node) (by simp [entries])
    rw [List.dropLast_concat, List.getLast?_concat] at holds
    exact ⟨holds.1, holds.2 name rfl⟩
  exact ⟨fun place name node there => (entry place name node there).1,
    fun place name node there => (entry place name node there).2⟩

theorem walk_append_name {disk : Disk} {start place : Place} {names : List String} {name : String}
    (h : disk.walk start names = .ok place) (directory : disk.node? place = some .directory)
    (free : disk.obstacle? .search place = none) (short : tooLong name = false)
    (proper : name ≠ "..") : disk.walk start (names ++ [name]) = .ok (place ++ [name]) := by
  have last : disk.walk place [name] = .ok (place ++ [name]) := walk_last free proper short
  fun_induction walk disk start names with
  | case1 start =>
    obtain rfl := Except.ok.inj h
    exact last
  | case3 start rest free' ih => exact (walk_up free').trans (ih h)
  | case5 start first free' proper' short' =>
    obtain rfl := Except.ok.inj h
    refine (walk_down free' proper' ?_ (List.cons_ne_nil _ _) directory).trans last
    simpa using short'
  | case8 start first rest free' proper' short' more directory' ih =>
    refine (walk_down free' proper' ?_ (by simp) directory').trans (ih h)
    simpa using short'
  | _ => cases h

/-- Every directory is found from the root, if the directories on the way may be searched. -/
theorem Tree.walk {disk : Disk} (tree : disk.Tree) {place : Place}
    (directory : disk.node? place = some .directory)
    (free : ∀ above, above <+: place → disk.obstacle? .search above = none) :
    disk.walk [] place = .ok place := by
  induction place using List.reverseRecOn with
  | nil => rfl
  | append_singleton place name ih =>
    obtain ⟨short, proper⟩ := tree.named place name _ directory
    have above := tree.parent place name _ directory
    have within := List.prefix_append place [name]
    have found := ih above fun p before => free p (before.trans within)
    exact walk_append_name found above (free place within) short proper

theorem simplify_concat (names : List String) (name : String) :
    simplify (names ++ [name]) =
      if name = ".." then (simplify names).dropLast else simplify names ++ [name] := by
  rw [simplify, List.foldl_append]
  rfl

/-- Taking `..` out of the names leads to the same place as following them. -/
theorem simplify_append {disk : Disk} {start place : Place} {names : List String}
    (h : disk.walk start names = .ok place) {before : List String}
    (same : simplify before = start) : simplify (before ++ names) = place := by
  fun_induction walk disk start names generalizing before with
  | case1 start =>
    obtain rfl := Except.ok.inj h
    rw [List.append_nil, same]
  | case3 start rest free ih =>
    rw [List.append_cons]
    exact ih h (by rw [simplify_concat, if_pos rfl, same])
  | case5 start name free proper short =>
    obtain rfl := Except.ok.inj h
    rw [simplify_concat, if_neg proper, same]
  | case8 start name rest free proper short more directory ih =>
    rw [List.append_cons]
    exact ih h (by rw [simplify_concat, if_neg proper, same])
  | _ => cases h

/-- The target is a name in a directory, but is no directory itself, and the name is short enough
for the one of the temporary file, as are both paths for the file system. Nothing bars what is done
there, and the directories on the way from the root may be searched. -/
structure Writable (disk : Disk) (target : LocalPath) (directory : Place) : Prop where
  parent : disk.locate target.parent = .ok directory
  isDirectory : disk.node? directory = some .directory
  other : disk.node? (directory ++ [target.name]) ≠ some .directory
  named : target.name ≠ ""
  proper : target.name ≠ ".."
  short : tooLong (scratchName target.name) = false
  path : refusal? target = none
  scratchPath : refusal? (scratchPath target) = none
  clear : disk.Clear (directory ++ [target.name])
  searchable : ∀ barrier ∈ disk.barriers, barrier.access = .search → ¬ barrier.place <+: directory

section
variable {disk : Disk} {target : LocalPath} {directory : Place}

theorem locate_of_walk {path : LocalPath} (admitted : refusal? path = none) :
    disk.locate path = disk.walk (start path) path.parts := by
  rw [locate, admitted]

theorem walk_of_locate {path : LocalPath} {place : Place} (h : disk.locate path = .ok place) :
    disk.walk (start path) path.parts = .ok place := by
  rw [locate] at h
  split at h
  · cases h
  · exact h

theorem tooLong_of_scratchName {name : String} (short : tooLong (scratchName name) = false) :
    tooLong name = false := by
  simp only [tooLong, scratchName, toString, decide_eq_false_iff_not, String.utf8ByteSize_append]
    at short ⊢
  omega

theorem scratchName_ne (name : String) : scratchName name ≠ ".." := by
  intro h
  have lengths := congrArg String.length h
  have longer : (scratchName name).length = 1 + name.length + 13 := by
    simp only [scratchName, toString, String.length_append]
    rfl
  rw [longer] at lengths
  have : "..".length = 2 := rfl
  omega

theorem parts_eq (named : target.name ≠ "") :
    target.parts = target.parent.parts ++ [target.name] := by
  have some_part : target.parts ≠ [] := by
    intro none
    apply named
    rw [LocalPath.name, none]
    rfl
  rw [LocalPath.parent, LocalPath.name, List.getLast?_eq_some_getLast some_part]
  exact (List.dropLast_concat_getLast some_part).symm

theorem Writable.searched (h : disk.Writable target directory) {place : Place}
    (within : place <+: directory) : disk.obstacle? .search place = none := by
  refine obstacle?_of_forall fun barrier member search => ?_
  rintro rfl
  exact h.searchable barrier member search within

theorem Writable.free (h : disk.Writable target directory) {access : Access}
    (ofDirectory : access.ofDirectory = true) : disk.obstacle? access directory = none := by
  rw [← h.clear.directory ofDirectory, List.dropLast_concat]

theorem Writable.locate (h : disk.Writable target directory) :
    disk.locate target = .ok (directory ++ [target.name]) := by
  rw [locate_of_walk h.path, parts_eq h.named]
  exact walk_append_name (walk_of_locate h.parent) h.isDirectory (h.searched List.prefix_rfl)
    (tooLong_of_scratchName h.short) h.proper

theorem Writable.locate_scratchPath (h : disk.Writable target directory) (tree : disk.Tree) :
    disk.locate (Disk.scratchPath target) = .ok (directory ++ [scratchName target.name]) := by
  have simple : simplify (start target.parent ++ target.parent.parts) = directory := by
    apply simplify_append (walk_of_locate h.parent)
    rw [start]
    split <;> rfl
  have parts : (Disk.scratchPath target).parts = directory ++ [scratchName target.name] := by
    rw [Disk.scratchPath, ← simple]
    rfl
  have rooted : start (Disk.scratchPath target) = [] := by
    have root : (Disk.scratchPath target).root ≠ .none := by
      change (if target.parent.root = .none then LocalPath.Root.slash else target.parent.root) ≠ _
      split
      · decide
      · assumption
    rw [start, if_neg root]
  rw [locate_of_walk h.scratchPath, parts, rooted]
  have reached := tree.walk h.isDirectory fun _ => h.searched
  exact walk_append_name reached h.isDirectory (h.searched List.prefix_rfl) h.short
    (scratchName_ne _)

/-- A temporary file can be begun next to the target. -/
theorem Writable.stage (h : disk.Writable target directory) (tree : disk.Tree) :
    disk.stage target =
      .ok { disk with scratch := some ⟨directory ++ [scratchName target.name], []⟩ } := by
  have free : disk.pass .add (directory ++ [scratchName target.name]).dropLast = .ok () := by
    rw [List.dropLast_concat]
    exact pass_eq_ok_iff.mpr (h.free rfl)
  rw [Disk.stage, h.locate_scratchPath tree]
  simp only [bind, Except.bind, free]
  rfl

/-- A temporary file next to the target can be removed again. -/
theorem Writable.disposes (h : disk.Writable target directory) (tree : disk.Tree) :
    disk.Disposes target := by
  intro place located
  obtain rfl := Except.ok.inj ((h.locate_scratchPath tree).symm.trans located)
  rw [List.dropLast_concat]
  exact h.free rfl

/-- The temporary file can take the place of the target. -/
theorem Writable.commit (h : disk.Writable target directory) {staged : Disk}
    (same : staged.discard = disk.discard) :
    staged.commit target =
      .ok (disk.discard.set (directory ++ [target.name]) (.file staged.staged)) := by
  have found : disk.destination target = .ok (directory ++ [target.name]) := by
    rw [destination, h.locate]
    simp only [bind, Except.bind, h.named, h.proper, or_self, ↓reduceIte, h.clear.yieldAt h.other]
    rfl
  rw [Disk.commit, destination_congr (.of_discard same), found, same]

theorem Writable.write (h : disk.Writable target directory) (content : Bytes) :
    disk.write target content = .ok (disk.set (directory ++ [target.name]) (.file content)) :=
  h.clear.write h.locate h.other content

/-- Writing the target leaves a tree. -/
theorem Tree.set (tree : disk.Tree) (h : disk.Writable target directory) (content : Bytes) :
    (disk.set (directory ++ [target.name]) (.file content)).Tree := by
  have inside : directory ++ [target.name] ≠ [] := by simp
  refine ⟨fun place name node there => ?_, fun place name node there => ?_⟩
  · rw [node?_set _ inside] at there ⊢
    have above : disk.node? place = some .directory := by
      split at there
      · rename_i same
        obtain ⟨rfl, _⟩ := List.append_inj' same rfl
        exact h.isDirectory
      · exact tree.parent place name node there
    rw [if_neg, above]
    rintro rfl
    exact h.other above
  · rw [node?_set _ inside] at there
    split at there
    · rename_i same
      obtain ⟨_, names⟩ := List.append_inj' same rfl
      obtain rfl := List.singleton_inj.mp names
      exact ⟨tooLong_of_scratchName h.short, h.proper⟩
    · exact tree.named place name node there

end

end DriveDepot.Disk
