import DriveDepot.Disk.Scratch

namespace DriveDepot.Disk

/-- What follows a step succeeds only if the step does. -/
theorem eq_ok_of_bind {result : Except ε α} {next : α → Except ε β} {b : β}
    (h : result >>= next = .ok b) : ∃ a, result = .ok a ∧ next a = .ok b := by
  cases result with
  | error => cases h
  | ok a => exact ⟨a, rfl, h⟩

theorem naming_eq_ok {result : Except Refusal α} {path : String} {a : α}
    (h : naming path result = .ok a) : result = .ok a := by
  cases result with
  | error => cases h
  | ok => exact congrArg Except.ok (Except.ok.inj h)

theorem lookup_setEntry (place : Place) (node : Node) (entries : List (Place × Node)) (p : Place) :
    (setEntry place node entries).lookup p = if p = place then some node else entries.lookup p := by
  induction entries with
  | nil =>
    rw [setEntry, List.lookup_cons]
    by_cases there : p = place
    · simp [there]
    · rw [beq_false_of_ne there, if_neg there, List.lookup_nil]
  | cons entry rest ih =>
    obtain ⟨q, n⟩ := entry
    rw [setEntry, List.lookup_cons]
    by_cases same : q = place
    · rw [if_pos same, List.lookup_cons, same]
      by_cases there : p = place
      · simp [there]
      · rw [beq_false_of_ne there, if_neg there]
    · rw [if_neg same, List.lookup_cons, ih]
      by_cases here : p = q
      · simp [here, same]
      · rw [beq_false_of_ne here]

theorem node?_set {disk : Disk} {place : Place} (node : Node) (inside : place ≠ []) (p : Place) :
    (disk.set place node).node? p = if p = place then some node else disk.node? p := by
  rw [node?, node?, set, lookup_setEntry]
  by_cases root : p = []
  · rw [if_pos root, if_pos root, if_neg (root ▸ inside.symm)]
  · rw [if_neg root, if_neg root]

section
variable {disk other : Disk} {access : Access} {place : Place}

theorem pass_eq_ok_iff : disk.pass access place = .ok () ↔ disk.obstacle? access place = none := by
  rw [pass]
  split <;> simp_all

/-- Whether the access is one to a directory. -/
def Access.ofDirectory : Access → Bool
  | .search | .add | .remove => true
  | .read | .write | .append | .replace => false

/-- Nothing bars what is done with the file at a place, or with the directory it lies in. -/
def Clear (disk : Disk) (place : Place) : Prop :=
  ∀ barrier ∈ disk.barriers,
    barrier.place ≠ if barrier.access.ofDirectory then place.dropLast else place

instance (disk : Disk) (place : Place) : Decidable (disk.Clear place) :=
  inferInstanceAs (Decidable (∀ barrier ∈ disk.barriers, _))

theorem obstacle?_of_forall
    (free : ∀ barrier ∈ disk.barriers, barrier.access = access → barrier.place ≠ place) :
    disk.obstacle? access place = none := by
  rw [obstacle?, Option.map_eq_none_iff, List.find?_eq_none]
  intro barrier member
  simpa using free barrier member

theorem Clear.file (clear : disk.Clear place) (file : access.ofDirectory = false) :
    disk.obstacle? access place = none := by
  refine obstacle?_of_forall fun barrier member same => ?_
  simpa [same, file] using clear barrier member

theorem Clear.directory (clear : disk.Clear place) (directory : access.ofDirectory = true) :
    disk.obstacle? access place.dropLast = none := by
  refine obstacle?_of_forall fun barrier member same => ?_
  simpa [same, directory] using clear barrier member

section
variable (same : other.barriers = disk.barriers)
include same

theorem Clear.of_barriers (clear : disk.Clear place) : other.Clear place := by
  rw [Clear, same]
  exact clear

theorem obstacle?_congr : other.obstacle? access place = disk.obstacle? access place := by
  rw [obstacle?, obstacle?, same]

theorem pass_congr : other.pass access place = disk.pass access place := by
  rw [pass, pass, obstacle?_congr same]

end
end

section
variable {disk : Disk} {start : Place} {name : String} {rest : List String}
variable (free : disk.obstacle? .search start = none)
include free

theorem walk_up : disk.walk start (".." :: rest) = disk.walk start.dropLast rest := by
  simp [walk, free]

theorem walk_long (proper : name ≠ "..") (long : tooLong name = true) :
    disk.walk start (name :: rest) = .error .nameTooLong := by
  simp [walk, free, proper, long]

theorem walk_last (proper : name ≠ "..") (short : tooLong name = false) :
    disk.walk start [name] = .ok (start ++ [name]) := by
  simp [walk, free, proper, short]

theorem walk_down (proper : name ≠ "..") (short : tooLong name = false) (more : rest ≠ [])
    (directory : disk.node? (start ++ [name]) = some .directory) :
    disk.walk start (name :: rest) = disk.walk (start ++ [name]) rest := by
  simp [walk, free, proper, short, more, directory]

end

structure SameNodes (disk other : Disk) : Prop where
  node? : ∀ p, other.node? p = disk.node? p
  barriers : other.barriers = disk.barriers

theorem SameNodes.of_discard {disk other : Disk} (same : other.discard = disk.discard) :
    disk.SameNodes other := by
  refine ⟨fun p => ?_, ?_⟩
  · change other.discard.node? p = disk.discard.node? p
    rw [same]
  · change other.discard.barriers = disk.discard.barriers
    rw [same]

/-- Where all directories stay, a way that leads to a place still leads there. -/
theorem walk_of_directories {disk other : Disk} (barriers : other.barriers = disk.barriers)
    (kept : ∀ p, disk.node? p = some .directory → other.node? p = some .directory)
    {start place : Place} {names : List String} (h : disk.walk start names = .ok place) :
    other.walk start names = .ok place := by
  have still {start : Place} (free : disk.obstacle? .search start = none) :
      other.obstacle? .search start = none := (obstacle?_congr barriers).trans free
  fun_induction walk disk start names with
  | case1 => exact h
  | case3 start rest free ih => exact (walk_up (still free)).trans (ih h)
  | case5 start name free proper short =>
    exact (walk_last (still free) proper (by simpa using short)).trans h
  | case8 start name rest free proper short more directory ih =>
    have down := walk_down (still free) proper (by simpa using short) more (kept _ directory)
    exact down.trans (ih h)
  | _ => cases h

theorem walk_congr {disk other : Disk} (same : disk.SameNodes other) (start : Place)
    (names : List String) : other.walk start names = disk.walk start names := by
  induction names generalizing start with
  | nil => rfl
  | cons name rest ih => simp only [walk, obstacle?_congr same.barriers, same.node?, ih]

theorem locate_of_directories {disk other : Disk} (barriers : other.barriers = disk.barriers)
    (kept : ∀ p, disk.node? p = some .directory → other.node? p = some .directory)
    {path : LocalPath} {place : Place} (h : disk.locate path = .ok place) :
    other.locate path = .ok place := by
  rw [locate] at h ⊢
  split at h
  · cases h
  · exact walk_of_directories barriers kept h

theorem locate_congr {disk other : Disk} (same : disk.SameNodes other) (path : LocalPath) :
    other.locate path = disk.locate path := by
  rw [locate, locate]
  split
  · rfl
  · exact walk_congr same _ _

theorem ne_nil_of_node? {disk : Disk} {place : Place} (h : disk.node? place ≠ some .directory) :
    place ≠ [] := by
  rintro rfl
  exact h rfl

theorem locate_set {disk : Disk} {path : LocalPath} {place : Place}
    (located : disk.locate path = .ok place) (other : disk.node? place ≠ some .directory)
    (content : Bytes) : (disk.set place (.file content)).locate path = .ok place := by
  have kept (p : Place) (directory : disk.node? p = some .directory) :
      (disk.set place (.file content)).node? p = some .directory := by
    rw [node?_set _ (ne_nil_of_node? other), if_neg]
    · exact directory
    · rintro rfl
      exact other directory
  have barriers : (disk.set place (.file content)).barriers = disk.barriers := rfl
  exact locate_of_directories barriers kept located

theorem node?_set_self {disk : Disk} {place : Place} (other : disk.node? place ≠ some .directory)
    (content : Bytes) : (disk.set place (.file content)).node? place = some (.file content) := by
  rw [node?_set _ (ne_nil_of_node? other), if_pos rfl]

/-- The file at the path has this content, whether it may be read or not. -/
def Holds (disk : Disk) (path : LocalPath) (content : Bytes) : Prop :=
  ∃ place, disk.locate path = .ok place ∧ disk.node? place = some (.file content)

theorem holds_set {disk : Disk} {path : LocalPath} {place : Place}
    (located : disk.locate path = .ok place) (other : disk.node? place ≠ some .directory)
    (content : Bytes) : (disk.set place (.file content)).Holds path content :=
  ⟨place, locate_set located other content, node?_set_self other content⟩

section
variable {disk : Disk} {path : LocalPath} {place : Place} {content : Bytes}

theorem contentAt_of_file (file : disk.node? place = some (.file content)) :
    disk.contentAt place = (disk.pass .read place).map fun _ => content := by
  rw [contentAt, file]
  rfl

theorem readAt_of_located (located : disk.locate path = .ok place) :
    disk.readAt path = disk.contentAt place := by
  rw [readAt, located]
  rfl

theorem readAt_of_file (located : disk.locate path = .ok place)
    (file : disk.node? place = some (.file content))
    (readable : disk.obstacle? .read place = none) : disk.readAt path = .ok content := by
  rw [readAt_of_located located, contentAt_of_file file, pass_eq_ok_iff.mpr readable]
  rfl

theorem isFile_of_located (located : disk.locate path = .ok place) :
    disk.isFile path = .ok ((disk.node? place).any (·.isFile)) := by
  simp only [isFile, located]

theorem isFile_of_missing (located : disk.locate path = .ok place)
    (missing : disk.node? place = none) : disk.isFile path = .ok false := by
  rw [isFile_of_located located, missing]
  rfl

theorem Holds.readAt (holds : disk.Holds path content)
    (readable : ∀ place, disk.obstacle? .read place = none) : disk.readAt path = .ok content := by
  obtain ⟨place, located, file⟩ := holds
  exact readAt_of_file located file (readable place)

theorem holds_of_readAt (held : disk.readAt path = .ok content) : disk.Holds path content := by
  obtain ⟨place, located, held⟩ := eq_ok_of_bind held
  refine ⟨place, located, ?_⟩
  rw [contentAt] at held
  cases there : disk.node? place with
  | none => rw [there] at held; cases held
  | some node =>
    rw [there] at held
    cases node with
    | directory => obtain ⟨_, _, ⟨⟩⟩ := eq_ok_of_bind held
    | file =>
      obtain ⟨_, _, held⟩ := eq_ok_of_bind held
      rw [Except.ok.inj held]

theorem Holds.isFile (holds : disk.Holds path content) : disk.isFile path = .ok true := by
  obtain ⟨place, located, file⟩ := holds
  rw [isFile_of_located located, file]
  rfl

end

section
variable {disk : Disk} {place : Place}

theorem openAt_eq_ok {access : Access} (opened : disk.openAt access place = .ok ()) :
    disk.node? place ≠ some .directory := by
  intro directory
  rw [openAt, directory] at opened
  cases opened

theorem yieldAt_eq_ok (yields : disk.yieldAt place = .ok ()) :
    disk.node? place ≠ some .directory := by
  intro directory
  rw [yieldAt, directory] at yields
  obtain ⟨_, _, yields⟩ := eq_ok_of_bind yields
  obtain ⟨_, _, ⟨⟩⟩ := eq_ok_of_bind yields

variable (clear : disk.Clear place) (other : disk.node? place ≠ some .directory)
include clear other

theorem Clear.openAt {access : Access} (file : access.ofDirectory = false) :
    disk.openAt access place = .ok () := by
  rw [Disk.openAt]
  cases there : disk.node? place with
  | none => exact pass_eq_ok_iff.mpr (clear.directory rfl)
  | some node =>
    cases node with
    | directory => exact absurd there other
    | file => exact pass_eq_ok_iff.mpr (clear.file file)

theorem Clear.yieldAt : disk.yieldAt place = .ok () := by
  rw [Disk.yieldAt, pass_eq_ok_iff.mpr (clear.directory rfl)]
  cases there : disk.node? place with
  | none => exact pass_eq_ok_iff.mpr (clear.directory rfl)
  | some node =>
    cases node with
    | directory => exact absurd there other
    | file => exact pass_eq_ok_iff.mpr (clear.file rfl)

end

theorem Clear.write {disk : Disk} {path : LocalPath} {place : Place} (clear : disk.Clear place)
    (located : disk.locate path = .ok place) (other : disk.node? place ≠ some .directory)
    (content : Bytes) : disk.write path content = .ok (disk.set place (.file content)) := by
  have opened : disk.openAt .write place = .ok () := clear.openAt other rfl
  rw [Disk.write, writeAt, located]
  simp only [bind, Except.bind, opened]
  rfl

theorem write_eq_ok {disk after : Disk} {path : LocalPath} {content : Bytes}
    (written : disk.write path content = .ok after) :
    ∃ place, disk.locate path = .ok place ∧ disk.node? place ≠ some .directory ∧
      after = disk.set place (.file content) := by
  obtain ⟨place, located, written⟩ := eq_ok_of_bind (naming_eq_ok written)
  obtain ⟨_, opened, written⟩ := eq_ok_of_bind written
  exact ⟨place, located, openAt_eq_ok opened, (Except.ok.inj written).symm⟩

theorem stage_eq_ok {disk after : Disk} {target : LocalPath} (h : disk.stage target = .ok after) :
    ∃ place, disk.locate (scratchPath target) = .ok place ∧
      after = { disk with scratch := some ⟨place, []⟩ } := by
  obtain ⟨place, located, h⟩ := eq_ok_of_bind (naming_eq_ok h)
  obtain ⟨_, _, h⟩ := eq_ok_of_bind h
  exact ⟨place, located, (Except.ok.inj h).symm⟩

structure Replaced (disk : Disk) (target : LocalPath) (content : Bytes) (after : Disk) : Prop where
  holds : after.Holds target content
  others : ∀ place, disk.locate target ≠ .ok place → after.node? place = disk.node? place
  scratch : after.scratch = none
  barriers : after.barriers = disk.barriers

theorem replaced_set {disk : Disk} {target : LocalPath} {place : Place}
    (located : disk.locate target = .ok place) (other : disk.node? place ≠ some .directory)
    (content : Bytes) :
    disk.Replaced target content (disk.discard.set place (.file content)) := by
  have same : disk.SameNodes disk.discard := ⟨fun _ => rfl, rfl⟩
  refine ⟨holds_set ((locate_congr same target).trans located) other content, ?_, rfl, rfl⟩
  intro p elsewhere
  rw [node?_set _ (ne_nil_of_node? other), if_neg, same.node?]
  rintro rfl
  exact elsewhere located

theorem commit_eq_ok {disk after : Disk} {target : LocalPath}
    (h : disk.commit target = .ok after) :
    ∃ place, disk.locate target = .ok place ∧ disk.node? place ≠ some .directory ∧
      after = disk.discard.set place (.file disk.staged) := by
  rw [commit] at h
  split at h
  · rename_i place found
    cases h
    obtain ⟨there, located, found⟩ := eq_ok_of_bind found
    split at found
    · cases found
    · obtain ⟨_, yields, found⟩ := eq_ok_of_bind found
      obtain rfl := Except.ok.inj found
      exact ⟨there, located, yieldAt_eq_ok yields, rfl⟩
  · cases h

/-- A temporary file for the target may be removed from where it is put. -/
def Disposes (disk : Disk) (target : LocalPath) : Prop :=
  ∀ place, disk.locate (scratchPath target) = .ok place →
    disk.obstacle? .remove place.dropLast = none

theorem unlink_of_clean {disk : Disk} (clean : disk.scratch = none) (target : LocalPath) :
    disk.unlink target = .ok disk.discard := by
  simp only [unlink, clean]
  rw [discard, ← clean]

/-- The temporary file is removed, or its directory does not let it go. -/
theorem unlink_cases {disk : Disk} {place : Place} {content : Bytes}
    (there : disk.scratch = some ⟨place, content⟩) (target : LocalPath) :
    disk.unlink target = .ok disk.discard ∨
      ∃ obstacle, disk.obstacle? .remove place.dropLast = some obstacle ∧
        disk.unlink target = .error ⟨.barred obstacle, (scratchPath target).toString, none⟩ := by
  rw [unlink, there]
  cases barred : disk.obstacle? .remove place.dropLast with
  | none =>
    simp only [pass_eq_ok_iff.mpr barred]
    exact .inl rfl
  | some obstacle =>
    refine .inr ⟨obstacle, rfl, ?_⟩
    simp only [pass, barred]
    rfl

end DriveDepot.Disk
