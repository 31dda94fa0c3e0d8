import DriveDepot.Proofs.Disk

namespace DriveDepot

namespace LocalPath

/-- The path has the null character in it. -/
def HasNull (path : LocalPath) : Prop := '\x00' ∈ path.toString.toList

instance (path : LocalPath) : Decidable path.HasNull :=
  inferInstanceAs (Decidable ('\x00' ∈ path.toString.toList))

theorem mem_intercalate_iff {separator : String} {c : Char} (apart : c ∉ separator.toList)
    (parts : List String) :
    c ∈ (separator.intercalate parts).toList ↔ ∃ part ∈ parts, c ∈ part.toList := by
  rw [String.toList_intercalate]
  induction parts with
  | nil => simp
  | cons part rest ih =>
    cases rest with
    | nil => simp
    | cons next more => simp_all

theorem hasNull_iff (path : LocalPath) :
    path.HasNull ↔ ∃ part ∈ path.parts, '\x00' ∈ part.toList := by
  have before : '\x00' ∉ path.root.text.toList := by cases path.root <;> decide
  rw [HasNull, toString]
  split
  · rename_i empty
    simp [empty.2]
  · rw [String.toList_append, List.mem_append, mem_intercalate_iff (by decide)]
    exact or_iff_right before

theorem pieces_of_not_mem {cs : List Char} (plain : '/' ∉ cs) : pieces cs = [cs] := by
  induction cs with
  | nil => rfl
  | cons c rest ih =>
    obtain ⟨other, later⟩ := not_or.mp fun member => plain (List.mem_cons.mpr member)
    rw [pieces, if_neg (Ne.symm other), ih later]

theorem ofString_of_not_mem {name : String} (plain : '/' ∉ name.toList) (given : name.toList ≠ [])
    (other : name.toList ≠ ['.']) : ofString name = ⟨.none, [name]⟩ := by
  have unrooted : name.toList.takeWhile (· = '/') = [] := by
    cases whole : name.toList with
    | nil => rfl
    | cons c rest =>
      have apart : c ≠ '/' := fun same => plain (whole ▸ same ▸ List.mem_cons_self)
      exact List.takeWhile_cons_of_neg (by simpa using apart)
  rw [ofString, unrooted, pieces_of_not_mem plain]
  simp [given, other, Root.ofLeadingSlashes]

end LocalPath

namespace Disk

theorem locate_of_tooLong {disk : Disk} {name : String} (plain : '\x00' ∉ name.toList)
    (long : tooLong name = true) (free : disk.obstacle? .search workingDirectory = none) :
    disk.locate ⟨.none, [name]⟩ = .error .nameTooLong := by
  have written : (⟨.none, [name]⟩ : LocalPath).toString = name := by
    simp [LocalPath.toString, LocalPath.Root.text]
  rw [locate, refusal?, written, if_neg (by simpa using plain)]
  by_cases whole : pathLimit < name.utf8ByteSize
  · rw [if_pos whole]
  · have proper : name ≠ ".." := by
      rintro rfl
      exact absurd long (by decide +kernel)
    rw [if_neg whole]
    exact walk_long free proper long

theorem refusal?_eq_nullCharacter (path : LocalPath) :
    refusal? path = some .nullCharacter ↔ path.HasNull := by
  rw [refusal?, LocalPath.HasNull]
  split <;> simp_all

theorem walk_ne_nullCharacter (disk : Disk) (start : Place) (names : List String) :
    disk.walk start names ≠ .error .nullCharacter := by
  fun_induction walk disk start names with
  | case3 start rest free ih => exact ih
  | case8 start name rest free proper short more directory ih => exact ih
  | _ => simp

theorem locate_eq_nullCharacter (disk : Disk) (path : LocalPath) :
    disk.locate path = .error .nullCharacter ↔ refusal? path = some .nullCharacter := by
  rw [locate]
  cases refused : refusal? path with
  | none => simp [walk_ne_nullCharacter]
  | some refusal => simp

theorem mem_of_mem_simplify {name : String} {names : List String} (h : name ∈ simplify names) :
    name ∈ names := by
  have step (names : List String) (place : Place) :
      name ∈ names.foldl (fun place name =>
        if name = ".." then place.dropLast else place ++ [name]) place →
        name ∈ place ∨ name ∈ names := by
    induction names generalizing place with
    | nil => exact .inl
    | cons first rest ih =>
      intro h
      rw [List.mem_cons]
      obtain h | h := ih _ h
      · dsimp only at h
        split at h
        · exact .inl (List.dropLast_subset place h)
        · exact (List.mem_append.mp h).imp_right fun last => .inl (List.mem_singleton.mp last)
      · exact .inr (.inr h)
  exact (step names [] h).resolve_left (List.not_mem_nil)

theorem hasNull_of_scratchPath {target : LocalPath} (h : (scratchPath target).HasNull) :
    target.HasNull := by
  obtain ⟨part, member, null⟩ := (LocalPath.hasNull_iff _).mp h
  refine (LocalPath.hasNull_iff target).mpr ?_
  change part ∈ simplify (start target.parent ++ target.parts.dropLast) ++ [scratchName target.name]
    at member
  obtain member | member := List.mem_append.mp member
  · obtain member | member := List.mem_append.mp (mem_of_mem_simplify member)
    · rw [start] at member
      split at member
      · obtain rfl := List.mem_singleton.mp member
        exact absurd null (by decide)
      · exact absurd member List.not_mem_nil
    · exact ⟨part, List.dropLast_subset _ member, null⟩
  · obtain rfl := List.mem_singleton.mp member
    have named : '\x00' ∈ target.name.toList := by
      simp only [scratchName, toString, String.toList_append, List.mem_append] at null
      simpa using null
    rw [LocalPath.name] at named
    cases last : target.parts.getLast? with
    | none =>
      rw [last] at named
      exact absurd named (by decide)
    | some name =>
      rw [last] at named
      exact ⟨name, List.mem_of_getLast? last, named⟩

theorem bind_ne_nullCharacter {result : Except Refusal α} {next : α → Except Refusal β}
    (first : result ≠ .error .nullCharacter) (rest : ∀ a, next a ≠ .error .nullCharacter) :
    result >>= next ≠ .error .nullCharacter := by
  cases result with
  | error => exact fun same => first (congrArg Except.error (Except.error.inj same))
  | ok a => exact rest a

theorem naming_ne_nullCharacter {result : Except Refusal α} {path : String} {fault : Fault}
    (other : result ≠ .error .nullCharacter) (h : naming path result = .error fault) :
    fault.refusal ≠ .nullCharacter := by
  cases result with
  | ok => cases h
  | error refusal =>
    cases h
    rintro rfl
    exact other rfl

section
variable {disk : Disk} {place : Place}

theorem pass_ne_nullCharacter {access : Access} :
    disk.pass access place ≠ .error .nullCharacter := by
  rw [pass]
  split <;> simp

theorem contentAt_ne_nullCharacter : disk.contentAt place ≠ .error .nullCharacter := by
  rw [contentAt]
  split
  · simp
  · exact bind_ne_nullCharacter pass_ne_nullCharacter fun _ => by simp
  · exact bind_ne_nullCharacter pass_ne_nullCharacter fun _ => by simp [pure, Except.pure]

theorem openAt_ne_nullCharacter {access : Access} :
    disk.openAt access place ≠ .error .nullCharacter := by
  rw [openAt]
  split
  · exact pass_ne_nullCharacter
  · simp
  · exact pass_ne_nullCharacter

theorem yieldAt_ne_nullCharacter : disk.yieldAt place ≠ .error .nullCharacter := by
  rw [yieldAt]
  refine bind_ne_nullCharacter pass_ne_nullCharacter fun _ => ?_
  split
  · exact pass_ne_nullCharacter
  · exact bind_ne_nullCharacter pass_ne_nullCharacter fun _ => by simp
  · exact pass_ne_nullCharacter

end

section
variable {disk : Disk} {path target : LocalPath} {fault : Fault}

theorem locate_ne_nullCharacter (clean : ¬ path.HasNull) :
    disk.locate path ≠ .error .nullCharacter :=
  mt (locate_eq_nullCharacter disk path).mp (mt (refusal?_eq_nullCharacter path).mp clean)

theorem read_ne_nullCharacter (clean : ¬ path.HasNull) (h : disk.read path = .error fault) :
    fault.refusal ≠ .nullCharacter :=
  naming_ne_nullCharacter
    (bind_ne_nullCharacter (locate_ne_nullCharacter clean) fun _ => contentAt_ne_nullCharacter) h

theorem stage_ne_nullCharacter (clean : ¬ target.HasNull) (h : disk.stage target = .error fault) :
    fault.refusal ≠ .nullCharacter := by
  refine naming_ne_nullCharacter (bind_ne_nullCharacter ?_ fun place => ?_) h
  · exact locate_ne_nullCharacter (mt hasNull_of_scratchPath clean)
  · exact bind_ne_nullCharacter pass_ne_nullCharacter fun _ => nofun

theorem commit_eq_error_iff : disk.commit target = .error fault ↔
    ∃ refusal, disk.destination target = .error refusal ∧
      fault = ⟨refusal, (scratchPath target).toString, some target.toString⟩ := by
  rw [commit]
  cases disk.destination target with
  | ok => simp
  | error refusal => simp [eq_comm]

theorem commit_ne_nullCharacter (clean : ¬ target.HasNull) (h : disk.commit target = .error fault) :
    fault.refusal ≠ .nullCharacter := by
  obtain ⟨refusal, refused, rfl⟩ := commit_eq_error_iff.mp h
  rintro rfl
  refine bind_ne_nullCharacter (locate_ne_nullCharacter clean) (fun place => ?_) refused
  split
  · simp
  · exact bind_ne_nullCharacter yieldAt_ne_nullCharacter fun _ => nofun

theorem unlink_ne_nullCharacter (h : disk.unlink target = .error fault) :
    fault.refusal ≠ .nullCharacter := by
  rw [unlink] at h
  split at h
  · cases h
  · refine naming_ne_nullCharacter ?_ h
    exact bind_ne_nullCharacter pass_ne_nullCharacter fun _ => by simp [pure, Except.pure]

/-- Puts an empty file to the target by way of the temporary file. The content does not matter to
what the file system refuses. -/
def replace (disk : Disk) (target : LocalPath) : Except Fault Disk := do
  (← disk.stage target).commit target

theorem yieldAt_congr {other : Disk} (same : disk.SameNodes other) (place : Place) :
    other.yieldAt place = disk.yieldAt place := by
  simp only [yieldAt, pass_congr same.barriers, same.node?]

theorem destination_congr {other : Disk} (same : disk.SameNodes other) (target : LocalPath) :
    other.destination target = disk.destination target := by
  simp only [destination, locate_congr same, yieldAt_congr same]

theorem commit_eq_error_of_same {other : Disk} (same : other.discard = disk.discard)
    (h : disk.commit target = .error fault) : other.commit target = .error fault := by
  rw [commit_eq_error_iff] at h ⊢
  rw [destination_congr (.of_discard same)]
  exact h

theorem replace_ne_nullCharacter (clean : ¬ target.HasNull)
    (h : disk.replace target = .error fault) : fault.refusal ≠ .nullCharacter := by
  rw [replace] at h
  cases staged : disk.stage target with
  | error =>
    rw [staged] at h
    cases h
    exact stage_ne_nullCharacter clean staged
  | ok =>
    rw [staged] at h
    exact commit_ne_nullCharacter clean h

end

end Disk

end DriveDepot
