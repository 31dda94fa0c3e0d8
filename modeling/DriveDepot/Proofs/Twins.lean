import DriveDepot.Proofs.Calls
import DriveDepot.Proofs.Disk.Refusals

/-!
Two sessions that a client cannot tell apart. They have the drive, the layout and the faults to come
in common, and differ at most in what was told and in some files of the local disk that the client
does not use. Operations that go the same way on both keep in step: they come to the same, and leave
two such sessions again.
-/

namespace DriveDepot

/-- The same failure, or refusals of the file system in other words, with the same reports of
them. -/
inductive Failure.Alike : Failure → Failure → Prop
  | same (failure : Failure) : Alike failure failure
  | disk (fault other : Disk.Fault) : Alike (ofProvider (.disk fault)) (ofProvider (.disk other))
  | wrap {failure other : Failure} (error : StorageError) (alike : Alike failure other) :
      Alike (failure.wrap error) (other.wrap error)

namespace Failure.Alike

variable {failure other : Failure} (alike : failure.Alike other)
include alike

theorem isRaised : failure.isRaised = other.isRaised := by
  induction alike with
  | same | disk => rfl
  | wrap error _ ih => rw [isRaised_wrap, isRaised_wrap, ih]

theorem isProvider : failure.isProvider = other.isProvider := by
  cases alike with
  | same | disk => rfl
  | wrap => rw [isProvider_wrap, isProvider_wrap]

theorem isStorage : failure.isStorage = other.isStorage := by
  cases alike with
  | same | disk => rfl
  | wrap error alike => rw [isStorage_wrap, isStorage_wrap, alike.isRaised]

theorem isNotFound : failure.isNotFound = other.isNotFound := by
  cases alike with
  | same | disk => rfl
  | wrap => rw [isNotFound_wrap, isNotFound_wrap]

/-- Where the file system does not have the last word, the failures are the same, or both are
reports. -/
theorem eq_or_isStorage (reported : failure.isProvider = false) :
    failure = other ∨ failure.isStorage = true ∧ other.isStorage = true := by
  cases alike with
  | same => exact .inl rfl
  | disk => cases reported
  | @wrap failure other error alike =>
    have raised := alike.isRaised
    rw [isStorage_wrap, isStorage_wrap, ← raised]
    cases why : failure.isRaised with
    | true => exact .inr ⟨rfl, rfl⟩
    | false =>
      rw [why] at raised
      rw [eq_endless_of_not_isRaised why, eq_endless_of_not_isRaised raised.symm]
      exact .inl rfl

end Failure.Alike

namespace Disk

/-- Paths lead to the same places: the directories are the same, and the same may be done. -/
structure SameWays (disk other : Disk) : Prop where
  directories : ∀ p, other.node? p = some .directory ↔ disk.node? p = some .directory
  barriers : other.barriers = disk.barriers

namespace SameWays

variable {disk other third : Disk}

theorem refl (disk : Disk) : disk.SameWays disk := ⟨fun _ => .rfl, rfl⟩

theorem symm (h : disk.SameWays other) : other.SameWays disk :=
  ⟨fun p => (h.directories p).symm, h.barriers.symm⟩

theorem trans (h : disk.SameWays other) (k : other.SameWays third) : disk.SameWays third :=
  ⟨fun p => (k.directories p).trans (h.directories p), k.barriers.trans h.barriers⟩

theorem locate_iff (h : disk.SameWays other) (path : LocalPath) (place : Place) :
    other.locate path = .ok place ↔ disk.locate path = .ok place :=
  ⟨locate_of_directories h.barriers.symm fun p => (h.directories p).mp,
    locate_of_directories h.barriers fun p => (h.directories p).mpr⟩

theorem set {place : Place} (file : disk.node? place ≠ some .directory) (content : Bytes) :
    disk.SameWays (disk.set place (.file content)) := by
  refine ⟨fun p => ?_, rfl⟩
  rw [node?_set _ (ne_nil_of_node? file)]
  split
  · rename_i here
    simp [here, file]
  · rfl

end SameWays

/-- Two disks on which paths lead where they lead on a third. At the hidden places the first has
what the third has, and at all others the two have the same. -/
structure Twins (hidden : Place → Prop) (ground left right : Disk) : Prop where
  scratch : right.scratch = left.scratch
  shared : ∀ place, ¬ hidden place → right.node? place = left.node? place
  kept : ∀ place, hidden place → left.node? place = ground.node? place
  left : ground.SameWays left
  right : ground.SameWays right

inductive Alike (R : α → α → Prop) : Except Fault α → Except Fault α → Prop
  | ok {a b : α} (agree : R a b) : Alike R (.ok a) (.ok b)
  | error {fault other : Fault}
      (same : fault.refusal = .nullCharacter ↔ other.refusal = .nullCharacter) :
      Alike R (.error fault) (.error other)

theorem Fault.alike {fault other : Fault}
    (same : fault.refusal = .nullCharacter ↔ other.refusal = .nullCharacter) :
    (Failure.ofDisk fault).Alike (Failure.ofDisk other) := by
  rw [Failure.ofDisk, Failure.ofDisk]
  by_cases null : fault.refusal = .nullCharacter
  · have null' := same.mp null
    rw [if_pos null, if_pos null', Fault.message, Fault.message, null, null']
    exact .same _
  · rw [if_neg null, if_neg (null ∘ same.mpr)]
    exact .disk _ _

namespace Twins

variable {hidden : Place → Prop} {ground x y : Disk}

theorem self (disk : Disk) : Twins hidden disk disk disk :=
  ⟨rfl, fun _ _ => rfl, fun _ _ => rfl, .refl disk, .refl disk⟩

variable (twins : Twins hidden ground x y)
include twins

theorem withScratch (scratch : Option Scratch) :
    Twins hidden ground { x with scratch } { y with scratch } :=
  ⟨rfl, twins.shared, twins.kept, ⟨twins.left.directories, twins.left.barriers⟩,
    ⟨twins.right.directories, twins.right.barriers⟩⟩

theorem barriers : y.barriers = x.barriers := twins.right.barriers.trans twins.left.barriers.symm

theorem discard : Twins hidden ground x.discard y.discard := twins.withScratch none

theorem append (more : Bytes) : Twins hidden ground (x.append more) (y.append more) := by
  rw [Disk.append, Disk.append, twins.scratch]
  exact twins.withScratch _

theorem stageTemporary (name : String) (content : Bytes) :
    Twins hidden ground (x.stageTemporary name content) (y.stageTemporary name content) :=
  twins.withScratch _

theorem staged : y.staged = x.staged := by rw [Disk.staged, Disk.staged, twins.scratch]

/-- A file is written at a place that is not hidden. -/
theorem set {place : Place} (shown : ¬ hidden place) (other : ground.node? place ≠ some .directory)
    (content : Bytes) :
    Twins hidden ground (x.set place (.file content)) (y.set place (.file content)) := by
  have inside := ne_nil_of_node? other
  constructor
  · exact twins.scratch
  · intro p open'
    rw [node?_set _ inside, node?_set _ inside, twins.shared p open']
  · intro p covered
    rw [node?_set _ inside, if_neg, twins.kept p covered]
    rintro rfl
    exact shown covered
  · exact twins.left.trans (.set (mt (twins.left.directories place).mp other) content)
  · exact twins.right.trans (.set (mt (twins.right.directories place).mp other) content)

/-- A path leads to the same place on both, or on both to none. -/
theorem locate (path : LocalPath) :
    (∃ place, ground.locate path = .ok place ∧ x.locate path = .ok place ∧
      y.locate path = .ok place) ∨
    ∃ refusal other, x.locate path = .error refusal ∧ y.locate path = .error other ∧
      (refusal = .nullCharacter ↔ other = .nullCharacter) := by
  have left := twins.left.locate_iff path
  have right := twins.right.locate_iff path
  cases found : x.locate path with
  | ok place =>
    have below := (left place).mp found
    exact .inl ⟨place, below, rfl, (right place).mpr below⟩
  | error refusal =>
    cases found' : y.locate path with
    | ok place => cases found.symm.trans ((left place).mpr ((right place).mp found'))
    | error other =>
      have null := (locate_eq_nullCharacter x path).trans (locate_eq_nullCharacter y path).symm
      rw [found, found', Except.error.injEq, Except.error.injEq] at null
      exact .inr ⟨refusal, other, rfl, rfl, null⟩

theorem read {path : LocalPath} (shown : ∀ place, ground.locate path = .ok place → ¬ hidden place) :
    Alike Eq (x.read path) (y.read path) := by
  rw [Disk.read, Disk.read, readAt, readAt]
  obtain ⟨place, below, left, right⟩ | ⟨_, _, left, right, null⟩ := twins.locate path
  · have same : y.contentAt place = x.contentAt place := by
      simp only [contentAt, twins.shared place (shown place below), pass_congr twins.barriers]
    rw [left, right]
    simp only [bind, Except.bind, same]
    cases x.contentAt place with
    | error => exact .error .rfl
    | ok => exact .ok rfl
  · rw [left, right]
    exact .error null

theorem stage (target : LocalPath) :
    Alike (Twins hidden ground) (x.stage target) (y.stage target) := by
  rw [Disk.stage, Disk.stage]
  obtain ⟨place, _, left, right⟩ | ⟨_, _, left, right, null⟩ := twins.locate (scratchPath target)
  · rw [left, right]
    simp only [bind, Except.bind, pass_congr twins.barriers]
    cases x.pass .add place.dropLast with
    | error => exact .error .rfl
    | ok => exact .ok (twins.withScratch _)
  · rw [left, right]
    exact .error null

theorem commit {target : LocalPath}
    (shown : ∀ place, ground.locate target = .ok place → ¬ hidden place) :
    Alike (Twins hidden ground) (x.commit target) (y.commit target) := by
  rw [Disk.commit, Disk.commit, destination, destination]
  obtain ⟨place, below, left, right⟩ | ⟨_, _, left, right, null⟩ := twins.locate target
  · have same : y.yieldAt place = x.yieldAt place := by
      simp only [yieldAt, twins.shared place (shown place below), pass_congr twins.barriers]
    rw [left, right]
    simp only [bind, Except.bind, same, twins.staged]
    by_cases busy : target.name = "" ∨ target.name = ".."
    · simp only [busy, ↓reduceIte]
      exact .error .rfl
    · cases yields : x.yieldAt place with
      | error =>
        simp only [busy, ↓reduceIte]
        exact .error .rfl
      | ok =>
        have file := mt (twins.left.directories place).mpr (yieldAt_eq_ok yields)
        simp only [busy, ↓reduceIte]
        exact .ok (twins.discard.set (shown place below) file _)
  · rw [left, right]
    exact .error null

/-- What keeps the temporary file where it is, is the same on both. -/
theorem unlink (target : LocalPath) :
    (∃ fault, x.unlink target = .error fault ∧ y.unlink target = .error fault) ∨
      ∃ x' y', x.unlink target = .ok x' ∧ y.unlink target = .ok y' ∧
        Twins hidden ground x' y' := by
  simp only [Disk.unlink, twins.scratch]
  cases x.scratch with
  | none => exact .inr ⟨x, y, rfl, rfl, twins⟩
  | some scratch =>
    simp only [pass_congr twins.barriers]
    cases x.pass .remove scratch.place.dropLast with
    | error refusal => exact .inl ⟨_, rfl, rfl⟩
    | ok => exact .inr ⟨_, _, rfl, rfl, twins.discard⟩

end Twins
end Disk

/-- Two sessions that differ in hidden files at most, and in what was told. What was executed to
open a client does not matter either. -/
structure Session.Twins (hidden : Place → Prop) (ground : Disk) (s t : Session) : Prop where
  drive : t.drive = s.drive
  layout : t.layout = s.layout
  faults : t.schedule.faults = s.schedule.faults
  executed : ∀ call, call ≠ .credentials → call ≠ .build →
    t.schedule.executed.count call = s.schedule.executed.count call
  output : t.output = s.output
  disk : Disk.Twins hidden ground s.disk t.disk

namespace Operation

inductive Alike : Except Failure α → Except Failure α → Prop
  | ok (a : α) : Alike (.ok a) (.ok a)
  | error {failure other : Failure} (alike : failure.Alike other) :
      Alike (.error failure) (.error other)

/-- Run on twins, the two operations come to the same and leave twins. -/
def InStep (hidden : Place → Prop) (ground : Disk) (operation other : Operation α) : Prop :=
  ∀ s t, s.Twins hidden ground t →
    Alike (runOn operation s).1 (runOn other t).1 ∧
      (runOn operation s).2.Twins hidden ground (runOn other t).2

variable {hidden : Place → Prop} {ground : Disk}

theorem inStep_pure (a : α) : InStep hidden ground (pure a) (pure a) :=
  fun _ _ twins => ⟨.ok a, twins⟩

theorem inStep_throw {failure other : Failure} (alike : failure.Alike other) :
    InStep hidden ground (throw failure : Operation α) (throw other) :=
  fun _ _ twins => ⟨.error alike, twins⟩

theorem inStep_ofExcept (failure : ε → Failure) (result : Except ε α) :
    InStep hidden ground (ofExcept failure result) (ofExcept failure result) := by
  cases result with
  | ok a => exact inStep_pure a
  | error e => exact inStep_throw (.same _)

section
variable {operation other : Operation α} (first : InStep hidden ground operation other)
include first

theorem InStep.run {s t : Session} (twins : s.Twins hidden ground t) :
    ∃ outcome s' outcome' t', runOn operation s = (outcome, s') ∧ runOn other t = (outcome', t') ∧
      Alike outcome outcome' ∧ s'.Twins hidden ground t' :=
  ⟨_, _, _, _, rfl, rfl, first s t twins⟩

theorem InStep.bind {next next' : α → Operation β}
    (rest : ∀ a, InStep hidden ground (next a) (next' a)) :
    InStep hidden ground (operation >>= next) (other >>= next') := by
  intro s t twins
  obtain ⟨_, s', _, t', run, run', alike, after⟩ := first.run twins
  rw [runOn_bind, runOn_bind, run, run']
  cases alike with
  | ok a => exact rest a s' t' after
  | error alike => exact ⟨.error alike, after⟩

theorem InStep.tryCatch {handler handler' : Failure → Operation α}
    (handled : ∀ failure failure', failure.Alike failure' →
      InStep hidden ground (handler failure) (handler' failure')) :
    InStep hidden ground (tryCatch operation handler) (tryCatch other handler') := by
  intro s t twins
  obtain ⟨_, s', _, t', run, run', alike, after⟩ := first.run twins
  rw [runOn_tryCatch, runOn_tryCatch, run, run']
  cases alike with
  | ok a => exact ⟨.ok a, after⟩
  | error alike => exact handled _ _ alike s' t' after

theorem InStep.handleIf {p : Failure → Bool} {handler handler' : Failure → Operation α}
    (same : ∀ failure failure', failure.Alike failure' → p failure = p failure')
    (handled : ∀ failure failure', failure.Alike failure' →
      InStep hidden ground (handler failure) (handler' failure')) :
    InStep hidden ground (operation.handleIf p handler) (other.handleIf p handler') := by
  refine first.tryCatch fun failure failure' alike => ?_
  rw [same failure failure' alike]
  split
  · exact handled failure failure' alike
  · exact inStep_throw alike

theorem InStep.onProviderError {handler handler' : Failure → Operation α}
    (handled : ∀ failure failure', failure.Alike failure' →
      InStep hidden ground (handler failure) (handler' failure')) :
    InStep hidden ground (operation.onProviderError handler) (other.onProviderError handler') :=
  first.handleIf (fun _ _ alike => alike.isProvider) handled

theorem InStep.onStorageError {handler handler' : Failure → Operation α}
    (handled : ∀ failure failure', failure.Alike failure' →
      InStep hidden ground (handler failure) (handler' failure')) :
    InStep hidden ground (operation.onStorageError handler) (other.onStorageError handler') :=
  first.handleIf (fun _ _ alike => alike.isStorage) handled

theorem InStep.onAnyError {handler handler' : Failure → Operation α}
    (handled : ∀ failure failure', failure.Alike failure' →
      InStep hidden ground (handler failure) (handler' failure')) :
    InStep hidden ground (operation.onAnyError handler) (other.onAnyError handler') :=
  first.handleIf (fun _ _ alike => alike.isRaised) handled

theorem InStep.ensuring {cleanup cleanup' : Operation Unit}
    (cleaned : InStep hidden ground cleanup cleanup') :
    InStep hidden ground (operation.ensuring cleanup) (other.ensuring cleanup') := by
  intro s t twins
  obtain ⟨_, s', _, t', run, run', alike, after⟩ := first.run twins
  rw [Operation.ensuring, Operation.ensuring, runOn_bind, runOn_bind, runOn_attempt, runOn_attempt,
    run, run']
  cases alike with
  | ok a => exact cleaned.bind (fun _ => inStep_pure a) s' t' after
  | @error failure failure' alike =>
    have raised := alike.isRaised
    match failure, failure' with
    | .raised .., .raised .. =>
      exact cleaned.bind (fun _ => inStep_throw alike) s' t' after
    | .endless, .endless => exact ⟨.error alike, after⟩

theorem InStep.ite {c : Prop} [Decidable c] {operation' other' : Operation α}
    (second : InStep hidden ground operation' other') :
    InStep hidden ground (if c then operation else operation') (if c then other else other') := by
  split
  · exact first
  · exact second

end

theorem InStep.forM {list : List α} {f g : α → Operation PUnit}
    (each : ∀ a, InStep hidden ground (f a) (g a)) :
    InStep hidden ground (list.forM f) (list.forM g) := by
  induction list with
  | nil => exact inStep_pure PUnit.unit
  | cons a rest ih => exact (each a).bind fun _ => ih

theorem InStep.mapM {list : List α} {f g : α → Operation β}
    (each : ∀ a, InStep hidden ground (f a) (g a)) :
    InStep hidden ground (list.mapM f) (list.mapM g) := by
  induction list with
  | nil => exact inStep_pure []
  | cons a rest ih =>
    rw [List.mapM_cons, List.mapM_cons]
    exact (each a).bind fun _ => ih.bind fun _ => inStep_pure _

theorem InStep.get_bind {next next' : Session → Operation α}
    (rest : ∀ s t, s.Twins hidden ground t → InStep hidden ground (next s) (next' t)) :
    InStep hidden ground (get >>= next) (get >>= next') :=
  fun s t twins => rest s t twins s t twins

theorem inStep_layout : InStep hidden ground layout layout :=
  InStep.get_bind fun _ _ twins => twins.layout ▸ inStep_pure _

theorem InStep.disk_bind {next next' : Disk → Operation α}
    (rest : ∀ x y, Disk.Twins hidden ground x y → InStep hidden ground (next x) (next' y)) :
    InStep hidden ground (disk >>= next) (disk >>= next') :=
  fun s t twins => rest s.disk t.disk twins.disk s t twins

theorem InStep.ofDisk_bind {R : α → α → Prop} {result result' : Except Disk.Fault α}
    (alike : Disk.Alike R result result') {next next' : α → Operation β}
    (rest : ∀ a b, R a b → InStep hidden ground (next a) (next' b)) :
    InStep hidden ground (ofDisk result >>= next) (ofDisk result' >>= next') := by
  cases alike with
  | ok agree => exact rest _ _ agree
  | error same => exact inStep_throw (Disk.Fault.alike same)

theorem inStep_setLayout (layout : Layout) :
    InStep hidden ground (setLayout layout) (setLayout layout) :=
  fun _ _ twins => ⟨.ok (), { twins with layout := rfl }⟩

theorem inStep_setDisk {x y : Disk} (disks : Disk.Twins hidden ground x y) :
    InStep hidden ground (setDisk x) (setDisk y) :=
  fun _ _ twins => ⟨.ok (), { twins with disk := disks }⟩

theorem inStep_print (text : String) : InStep hidden ground (print text) (print text) :=
  fun _ _ twins => ⟨.ok (), { twins with output := congrArg (· ++ text) twins.output }⟩

theorem inStep_record (call : Call) : InStep hidden ground (record call) (record call) :=
  fun _ _ twins => ⟨.ok (), { twins with }⟩

/-- Whatever the two tell, and whether or not it is kept. -/
theorem inStep_log (level : Level) (message message' : String) :
    InStep hidden ground (log level message) (log level message') := by
  intro s t twins
  have told (u : Session) (message : String) : (log level message).Ends u fun outcome v =>
      outcome = .ok () ∧ ∃ journal, v = { u with journal } :=
    Ends.log fun journal => ⟨rfl, journal, rfl⟩
  obtain ⟨ended, journal, left⟩ := told s message
  obtain ⟨ended', journal', right⟩ := told t message'
  rw [ended, left, ended', right]
  exact ⟨.ok (), { twins with }⟩

theorem inStep_log_pure (level : Level) (message message' : String) (a : α) :
    InStep hidden ground (do log level message; return a) (do log level message'; return a) :=
  (inStep_log level message message').bind fun _ => inStep_pure a

theorem inStep_log_throw (level : Level) (message message' : String) {failure other : Failure}
    (alike : failure.Alike other) :
    InStep hidden ground (do log level message; throw failure : Operation α)
      (do log level message'; throw other) :=
  (inStep_log level message message').bind fun _ => inStep_throw alike

/-- A call meets the same fault on both. -/
theorem InStep.perform {call : Call} (use : call.kind ≠ .credentials ∧ call.kind ≠ .build)
    {effect effect' : Operation Json} (effective : InStep hidden ground effect effect') :
    InStep hidden ground (perform call effect) (perform call effect') := by
  rw [Operation.perform, Operation.perform]
  refine (inStep_record call).bind fun _ => ?_
  have counted : InStep hidden ground
      (modify fun s => { s with schedule := s.schedule.count call.kind })
      (modify fun s => { s with schedule := s.schedule.count call.kind }) := by
    intro s t twins
    refine ⟨.ok (), { twins with executed := fun other opening building => ?_ }⟩
    simp only [runOn_modify, Schedule.count, List.count_cons]
    rw [twins.executed other opening building]
  refine counted.bind fun _ => InStep.get_bind fun s t twins => ?_
  have same : t.schedule.fault? call.kind = s.schedule.fault? call.kind := by
    rw [Schedule.fault?, Schedule.fault?, twins.faults, twins.executed _ use.1 use.2]
  rw [same]
  split
  · exact effective
  · split
    · exact inStep_pure _
    · split
      · rw [discard_bind, discard_bind]
        exact effective.bind fun _ => inStep_throw (.same _)
      · exact inStep_throw (.same _)

theorem inStep_answer (request : Request) :
    InStep hidden ground (answer request) (answer request) := by
  rw [answer]
  refine InStep.get_bind fun s t twins => ?_
  rw [twins.drive]
  refine (inStep_ofExcept _ _).bind ?_
  rintro ⟨value, drive⟩
  refine InStep.bind ?_ fun _ => inStep_pure _
  exact fun _ _ twins => ⟨.ok (), { twins with drive := rfl }⟩

theorem inStep_request (request : Request) :
    InStep hidden ground (Operation.request request) (Operation.request request) := by
  refine InStep.perform ?_ (inStep_answer request)
  constructor <;> cases request <;> simp [Call.kind, Request.kind]

end Operation

end DriveDepot
