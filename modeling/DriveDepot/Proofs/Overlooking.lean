import DriveDepot.Proofs.Growth
import DriveDepot.Proofs.Steady

/-!
Operations that overlook some files of the drive. If these are there in addition, the operation
comes to the same and does the same, and leaves them as they are. This follows from how an operation
is put together, as long as no search asks for one of the files and no request names one. Faults
have to raise: an answer in the place of the drive could name any file.
-/

namespace DriveDepot

/-- None of the files has the id. -/
def Foreign (more : List StoredFile) (id : String) : Prop := ∀ file ∈ more, file.id ≠ id

/-- None of the files is one that the clauses ask for. -/
def Unasked (more : List StoredFile) (clauses : List Clause) : Prop :=
  ∀ file ∈ more, clauses.all file.satisfies = false

/-- The ids that a change names. -/
def Change.ids : Change → List String
  | .retitle id _ | .leave id _ | .drop id => [id]
  | .enter id folder => [id, folder]

theorem Change.file_mem_ids (change : Change) : change.file ∈ change.ids := by
  cases change <;> simp [file, ids]

namespace Drive

/-- No file of the drive has the id of one of the others. -/
def Apart (drive : Drive) (more : List StoredFile) : Prop :=
  ∀ file ∈ drive.files, Foreign more file.id

section
variable {drive : Drive} {more : List StoredFile} {id : String}

theorem file?_grown (foreign : Foreign more id) :
    (drive.grown more).file? (.string id) = drive.file? (.string id) := by
  by_cases addressed : id = ""
  · rw [addressed]
    rfl
  · have none_more : more.find? (·.id == id) = none :=
      List.find?_eq_none.mpr (by simpa [Foreign] using foreign)
    rw [file?_of_ne_empty _ addressed, file?_of_ne_empty _ addressed, grown, List.find?_append,
      none_more, Option.or_none]

theorem holds_grown_of_foreign (foreign : Foreign more id) :
    (drive.grown more).holds (.string id) = drive.holds (.string id) := by
  rw [holds, holds, file?_grown foreign]

theorem apply_grown {change : Change} (foreign : Foreign more change.file) :
    change.apply (drive.grown more) = (change.apply drive).grown more := by
  have kept : more.filterMap change.outcome = more := by
    have same : ∀ file ∈ more, change.outcome file = some file :=
      fun file member => if_neg (foreign file member)
    rw [List.filterMap_congr same, List.filterMap_some]
  simp only [Change.apply, grown, List.filterMap_append, kept]

theorem refused_grown {change : Change} (foreign : ∀ id ∈ change.ids, Foreign more id) :
    change.Refused (drive.grown more) ↔ change.Refused drive := by
  cases change with
  | retitle id _ | leave id _ | drop id =>
    rw [Change.Refused, Change.Refused, file?_grown (foreign id (by simp [Change.ids]))]
  | enter id folder =>
    rw [Change.Refused, Change.Refused, file?_grown (foreign id (by simp [Change.ids])),
      holds_grown_of_foreign (foreign folder (by simp [Change.ids]))]

theorem Apart.apply (apart : drive.Apart more) (change : Change) :
    (change.apply drive).Apart more := by
  intro file member
  obtain ⟨before, held, becomes⟩ := List.mem_filterMap.mp member
  rw [(Change.kept_of_outcome becomes).id]
  exact apart before held

theorem select_grown {clauses : List Clause} (unasked : Unasked more clauses) :
    (drive.grown more).select clauses = drive.select clauses := by
  have none_more : more.filter (fun file => clauses.all file.satisfies) = [] :=
    List.filter_eq_nil_iff.mpr fun file member => by simp [unasked file member]
  rw [select, grown, List.filter_append, none_more, List.append_nil]
  rfl

end

/-- The drive answers the request alike whether the files are there or not, and leaves them. -/
structure Overlooks (drive : Drive) (more : List StoredFile) (request : Request) : Prop where
  answers : (drive.grown more).answer request =
    (drive.answer request).map fun (value, after) => (value, after.grown more)
  apart : ∀ value after, drive.answer request = .ok (value, after) →
    after.Apart more ∧ after.pageSize = drive.pageSize

section
variable {drive : Drive} {more : List StoredFile} (apart : drive.Apart more)
include apart

theorem overlooks_change {change : Change} (foreign : ∀ id ∈ change.ids, Foreign more id) :
    drive.Overlooks more change.request := by
  obtain ⟨denied, refused⟩ | granted := drive.answer_change change
  · constructor
    · rw [answer_of_refused ((refused_grown foreign).mpr refused), denied]
      rfl
    · intro value after answer
      cases denied.symm.trans answer
  · constructor
    · obtain ⟨_, refused⟩ | granted' := (drive.grown more).answer_change change
      · rw [answer_of_refused ((refused_grown foreign).mp refused)] at granted
        cases granted
      · rw [granted', granted, apply_grown (foreign _ change.file_mem_ids)]
        rfl
    · intro value after answer
      obtain ⟨_, rfl⟩ := Prod.mk.inj (Except.ok.inj (granted.symm.trans answer))
      exact ⟨apart.apply change, rfl⟩

theorem overlooks_listFiles {query : String} {token : Json}
    (unasked : ∀ clauses, Query.ofText? query = some clauses → Unasked more clauses) :
    drive.Overlooks more (.listFiles query token) := by
  have same : (drive.grown more).list query token = drive.list query token := by
    rw [list, list]
    cases read : Query.ofText? query with
    | none => rfl
    | some clauses =>
      simp only [select_grown (unasked clauses read)]
      rfl
  constructor
  · rw [Search.answer_listFiles, Search.answer_listFiles, same]
    cases drive.list query token <;> rfl
  · intro value after answer
    rw [answer_listing_same rfl answer]
    exact ⟨apart, rfl⟩

end

end Drive

namespace Session

/-- The session with more files on the drive. -/
def grown (s : Session) (more : List StoredFile) : Session :=
  { s with drive := s.drive.grown more }

/-- The session has none of the files, and its searches come to an end. -/
structure Apart (more : List StoredFile) (layout : Layout) (s : Session) : Prop where
  ids : s.drive.Apart more
  layout : s.layout = layout
  raising : s.schedule.Raising
  paged : s.drive.pageSize ≠ some 0

end Session

namespace Operation

/-- With the files on the drive in addition the operation does all that it does without them, and
nothing else. A value that it gives satisfies `P`. -/
def Overlooks (more : List StoredFile) (layout : Layout) (P : α → Prop) (operation : Operation α) :
    Prop :=
  ∀ s : Session, s.Apart more layout → operation.Ends s fun outcome t =>
    runOn operation (s.grown more) = (outcome, t.grown more) ∧ t.Apart more layout ∧
      ∀ a, outcome = .ok a → P a

variable {more : List StoredFile} {layout : Layout} {P : α → Prop} {Q : β → Prop}

theorem overlooks_pure {a : α} (holds : P a) : (pure a : Operation α).Overlooks more layout P :=
  fun _ apart => ⟨rfl, apart, fun _ same => Except.ok.inj same ▸ holds⟩

theorem overlooks_throw (failure : Failure) :
    (throw failure : Operation α).Overlooks more layout P :=
  fun _ apart => ⟨rfl, apart, by simp⟩

theorem overlooks_ofExcept (failure : ε → Failure) (result : Except ε α) :
    (ofExcept failure result).Overlooks more layout (result = .ok ·) := by
  cases result with
  | ok a => exact overlooks_pure rfl
  | error e => exact overlooks_throw _

section
variable {operation : Operation α} (first : operation.Overlooks more layout P)
include first

theorem Overlooks.mono {P' : α → Prop} (weaker : ∀ a, P a → P' a) :
    operation.Overlooks more layout P' := by
  intro s apart
  apply (first s apart).mono
  rintro outcome t ⟨run, after, holds⟩
  exact ⟨run, after, fun a same => weaker a (holds a same)⟩

theorem Overlooks.bind {next : α → Operation β}
    (rest : ∀ a, P a → (next a).Overlooks more layout Q) :
    (operation >>= next).Overlooks more layout Q := by
  intro s apart
  rw [runOn_bind]
  refine (first s apart).bind ?_ ?_
  · rintro a t ⟨run, after, holds⟩
    rw [run]
    exact rest a (holds a rfl) t after
  · rintro failure t ⟨run, after, _⟩
    rw [run]
    exact ⟨rfl, after, by simp⟩

theorem Overlooks.tryCatch {handler : Failure → Operation α}
    (handled : ∀ failure, (handler failure).Overlooks more layout P) :
    (tryCatch operation handler).Overlooks more layout P := by
  intro s apart
  rw [runOn_tryCatch]
  refine (first s apart).tryCatch ?_ ?_
  · rintro a t ⟨run, after, holds⟩
    rw [run]
    exact ⟨rfl, after, holds⟩
  · rintro failure t ⟨run, after, _⟩
    rw [run]
    exact handled failure t after

theorem Overlooks.handleIf {p : Failure → Bool} {handler : Failure → Operation α}
    (handled : ∀ failure, (handler failure).Overlooks more layout P) :
    (operation.handleIf p handler).Overlooks more layout P := by
  refine first.tryCatch fun failure => ?_
  split
  · exact handled failure
  · exact overlooks_throw failure

theorem Overlooks.ensuring {P' : Unit → Prop} {cleanup : Operation Unit}
    (cleaned : cleanup.Overlooks more layout P') :
    (operation.ensuring cleanup).Overlooks more layout P := by
  have attempted : operation.attempt.Overlooks more layout fun outcome =>
      ∀ a, outcome = .ok a → P a := by
    rw [attempt, map_eq_pure_bind]
    refine Overlooks.handleIf (Overlooks.bind first fun a holds => ?_) fun failure => ?_
    · exact overlooks_pure fun _ same => Except.ok.inj same ▸ holds
    · exact overlooks_pure (by simp)
  refine attempted.bind fun outcome holds => cleaned.bind fun _ _ => ?_
  exact (overlooks_ofExcept _ outcome).mono holds

theorem Overlooks.ite {other : Operation α} (second : other.Overlooks more layout P) {c : Prop}
    [Decidable c] : (if c then operation else other).Overlooks more layout P := by
  split
  · exact first
  · exact second

end

theorem Overlooks.forM {list : List α} {f : α → Operation PUnit} {P : PUnit → Prop} (done : P ⟨⟩)
    (each : ∀ a ∈ list, (f a).Overlooks more layout P) :
    (list.forM f).Overlooks more layout P := by
  induction list with
  | nil => exact overlooks_pure done
  | cons a rest ih =>
    exact (each a (by simp)).bind fun _ _ => ih fun b member => each b (by simp [member])

/-- An operation may go on with what the files do not change. -/
theorem Overlooks.get_bind {next : Session → Operation β}
    (same : ∀ s : Session, s.Apart more layout → next (s.grown more) = next s)
    (rest : ∀ s : Session, s.Apart more layout → (next s).Overlooks more layout Q) :
    (get >>= next).Overlooks more layout Q := by
  intro s apart
  rw [ends_get_bind, runOn_bind, runOn_get]
  change (next s).Ends s fun outcome t => runOn (next (s.grown more)) _ = _ ∧ _
  rw [same s apart]
  exact rest s apart s apart

theorem overlooks_layout : Operation.layout.Overlooks more layout (· = layout) :=
  Overlooks.get_bind (fun _ _ => rfl) fun _ apart => overlooks_pure apart.layout

theorem overlooks_disk : disk.Overlooks more layout fun _ => True :=
  Overlooks.get_bind (fun _ _ => rfl) fun _ _ => overlooks_pure trivial

theorem overlooks_setDisk (disk : Disk) : (setDisk disk).Overlooks more layout fun _ => True :=
  fun _ apart => ⟨rfl, { apart with }, fun _ _ => trivial⟩

theorem overlooks_record (call : Call) : (record call).Overlooks more layout fun _ => True :=
  fun _ apart => ⟨rfl, { apart with }, fun _ _ => trivial⟩

theorem overlooks_log (level : Level) (message : String) :
    (log level message).Overlooks more layout fun _ => True := by
  intro s apart
  rw [log, Ends, runOn_modify, runOn_modify]
  refine ⟨?_, ?_, fun _ _ => trivial⟩
  · rw [Session.grown]
    split <;> rfl
  · split <;> exact { apart with }

/-- A call meets the same fault, which raises. -/
theorem Overlooks.perform {P : Json → Prop} {call : Call} {effect : Operation Json}
    (effective : effect.Overlooks more layout P) :
    (perform call effect).Overlooks more layout P := by
  rw [Operation.perform]
  refine (overlooks_record call).bind fun _ _ => ?_
  have counted : (modify fun s => { s with schedule := s.schedule.count call.kind } :
      Operation PUnit).Overlooks more layout fun _ => True :=
    fun _ apart => ⟨rfl, { apart with raising := apart.raising.of_faults rfl }, fun _ _ => trivial⟩
  refine counted.bind fun _ _ => Overlooks.get_bind (fun _ _ => rfl) fun s apart => ?_
  split
  · exact effective
  · rename_i fault met
    obtain ⟨reason, raises⟩ := apart.raising fault (List.mem_of_find?_eq_some met)
    rw [raises]
    simp only
    split
    · rw [discard_bind]
      exact effective.bind fun _ _ => overlooks_throw _
    · exact overlooks_throw _

theorem overlooks_request {request : Request}
    (overlooked : ∀ drive : Drive, drive.Apart more → drive.Overlooks more request) :
    (Operation.request request).Overlooks more layout fun _ => True := by
  refine Overlooks.perform fun s apart => ?_
  have overlooks := overlooked s.drive apart.ids
  apply (answer_ends request s).mono
  intro outcome t answered
  rw [answer, runOn_bind, runOn_get]
  simp only [Session.grown, overlooks.answers]
  cases answered with
  | done answer =>
    obtain ⟨ids, paging⟩ := overlooks.apart _ _ answer
    rw [answer]
    exact ⟨rfl, { apart with ids, paged := paging ▸ apart.paged }, fun _ _ => trivial⟩
  | refused answer =>
    rw [answer]
    exact ⟨rfl, apart, by simp⟩

end Operation

end DriveDepot
