import Mathlib.Data.List.Nodup
import DriveDepot.Proofs.Calls

namespace DriveDepot

inductive Change
  | retitle (id title : String)
  | leave (id folder : String)
  | enter (id folder : String)
  | drop (id : String)
  deriving DecidableEq, Repr

namespace Change

/-- The id of the file that is changed. -/
def file : Change → String
  | .retitle id _ | .leave id _ | .enter id _ | .drop id => id

/-- What becomes of the file that is changed. -/
def effect : Change → StoredFile → Option StoredFile
  | .retitle _ title, file => some { file with title := title }
  | .leave _ folder, file => some { file with parents := file.parents.erase folder }
  | .enter _ folder, file => some { file with
      parents := if file.parents.contains folder then file.parents else file.parents ++ [folder] }
  | .drop _, _ => none

/-- What becomes of a file, whether it is the one that is changed or not. -/
def outcome (change : Change) (file : StoredFile) : Option StoredFile :=
  if file.id = change.file then change.effect file else some file

def apply (drive : Drive) (change : Change) : Drive :=
  { drive with files := drive.files.filterMap change.outcome }

/-- The call that makes the change. -/
def request : Change → Request
  | .retitle id title => .rename (.string id) title
  | .leave id folder => .removeParent id folder
  | .enter id folder => .addParent id folder
  | .drop id => .delete (.string id)

/-- What the drive answers when it makes the change. -/
def reply : Change → Json
  | .retitle _ title => .object [("title", .string title)]
  | .enter _ folder => .object [("id", .string folder)]
  | .leave .. | .drop _ => .string ""

/-- Why the drive does not make the change. -/
def Refused (drive : Drive) : Change → Prop
  | .retitle id _ | .drop id => drive.file? (.string id) = none
  | .leave id folder => ∀ file, drive.file? (.string id) = some file → folder ∉ file.parents
  | .enter id folder => drive.file? (.string id) = none ∨ drive.holds (.string folder) = false

/-- What becomes of a file by changes made one after the other. -/
def outcomes : List Change → StoredFile → Option StoredFile
  | [], file => some file
  | change :: rest, file => (change.outcome file).bind (outcomes rest)

/-- Nothing but the title and the parents of a file changes. -/
structure Kept (file after : StoredFile) : Prop where
  id : after.id = file.id
  mimeType : after.mimeType = file.mimeType
  trashed : after.trashed = file.trashed
  downloadUrl : after.downloadUrl = file.downloadUrl
  content : after.content = file.content

theorem kept_of_outcome {change : Change} {file after : StoredFile}
    (h : change.outcome file = some after) : Kept file after := by
  rw [outcome] at h
  split at h
  · cases change with
    | retitle | leave | enter => obtain rfl := Option.some.inj h; exact ⟨rfl, rfl, rfl, rfl, rfl⟩
    | drop => simp [effect] at h
  · obtain rfl := Option.some.inj h
    exact ⟨rfl, rfl, rfl, rfl, rfl⟩

theorem kept_of_outcomes {changes : List Change} {file after : StoredFile}
    (h : outcomes changes file = some after) : Kept file after := by
  induction changes generalizing file with
  | nil => obtain rfl := Option.some.inj h; exact ⟨rfl, rfl, rfl, rfl, rfl⟩
  | cons change rest ih =>
    obtain ⟨middle, first, later⟩ := Option.bind_eq_some_iff.mp h
    have kept := kept_of_outcome first
    have kept' := ih later
    exact ⟨kept'.id.trans kept.id, kept'.mimeType.trans kept.mimeType,
      kept'.trashed.trans kept.trashed, kept'.downloadUrl.trans kept.downloadUrl,
      kept'.content.trans kept.content⟩

theorem outcomes_append (changes more : List Change) (file : StoredFile) :
    outcomes (changes ++ more) file = (outcomes changes file).bind (outcomes more) := by
  induction changes generalizing file with
  | nil => rfl
  | cons change rest ih =>
    simp only [List.cons_append, outcomes, Option.bind_assoc]
    exact congrArg _ (funext ih)

/-- A file that no change is about stays as it is. -/
theorem outcomes_of_forall_ne {changes : List Change} {file : StoredFile}
    (other : ∀ change ∈ changes, change.file ≠ file.id) : outcomes changes file = some file := by
  induction changes with
  | nil => rfl
  | cons change rest ih =>
    have first : file.id ≠ change.file := (other change (by simp)).symm
    rw [outcomes, outcome, if_neg first]
    exact ih fun c member => other c (List.mem_cons_of_mem _ member)

/-- A file that no change drops is still there. -/
theorem exists_outcomes {changes : List Change} {file : StoredFile}
    (kept : Change.drop file.id ∉ changes) : ∃ after, outcomes changes file = some after := by
  induction changes generalizing file with
  | nil => exact ⟨file, rfl⟩
  | cons change rest ih =>
    rw [List.mem_cons, not_or] at kept
    have first : ∃ middle, change.outcome file = some middle := by
      rw [outcome]
      split
      · rename_i about
        cases change with
        | retitle | leave | enter => exact ⟨_, rfl⟩
        | drop id => exact absurd (congrArg Change.drop about) kept.1
      · exact ⟨file, rfl⟩
    obtain ⟨middle, first⟩ := first
    rw [outcomes, first]
    exact ih (by rw [(kept_of_outcome first).id]; exact kept.2)

/-- A file stays in a folder that no change takes it from. -/
theorem mem_parents_of_outcomes {changes : List Change} {file after : StoredFile} {folder : String}
    (h : outcomes changes file = some after) (inside : folder ∈ file.parents)
    (stays : Change.leave file.id folder ∉ changes) : folder ∈ after.parents := by
  induction changes generalizing file with
  | nil =>
    obtain rfl := Option.some.inj h
    exact inside
  | cons change rest ih =>
    obtain ⟨middle, first, later⟩ := Option.bind_eq_some_iff.mp h
    rw [List.mem_cons, not_or] at stays
    have still : folder ∈ middle.parents := by
      rw [outcome] at first
      split at first
      · rename_i about
        cases change with
        | retitle => obtain rfl := Option.some.inj first; exact inside
        | leave id left =>
          obtain rfl := Option.some.inj first
          have ne : folder ≠ left := by
            rintro rfl
            exact stays.1 (by rw [about]; rfl)
          exact (List.mem_erase_of_ne ne).mpr inside
        | enter id entered =>
          obtain rfl := Option.some.inj first
          simp only
          split
          · exact inside
          · exact List.mem_append_left _ inside
        | drop => simp [effect] at first
      · obtain rfl := Option.some.inj first
        exact inside
    exact ih later still (by rw [(kept_of_outcome first).id]; exact stays.2)

theorem outcomes_drops (ids : List String) (file : StoredFile) :
    outcomes (ids.map .drop) file = if file.id ∈ ids then none else some file := by
  induction ids with
  | nil => rfl
  | cons id rest ih =>
    rw [List.map_cons, outcomes, outcome]
    by_cases about : file.id = id
    · simp [about, Change.file, effect]
    · simp only [Change.file, about, ↓reduceIte, Option.bind_some, ih, List.mem_cons, false_or]

end Change

namespace Drive

/-- No two files have one id. -/
def DistinctIds (drive : Drive) : Prop := (drive.files.map (·.id)).Nodup

instance (drive : Drive) : Decidable drive.DistinctIds :=
  inferInstanceAs (Decidable (List.Nodup _))

/-- No file has an empty id. -/
def Addressed (drive : Drive) : Prop := ∀ file ∈ drive.files, file.id ≠ ""

instance (drive : Drive) : Decidable drive.Addressed :=
  inferInstanceAs (Decidable (∀ file ∈ drive.files, _))

/-- Every file lies in one folder at most. -/
def SingleParents (drive : Drive) : Prop := ∀ file ∈ drive.files, file.parents.length ≤ 1

instance (drive : Drive) : Decidable drive.SingleParents :=
  inferInstanceAs (Decidable (∀ file ∈ drive.files, _))

theorem SingleParents.parents_eq {drive : Drive} (single : drive.SingleParents) {file : StoredFile}
    (held : file ∈ drive.files) {folder : String} (inside : folder ∈ file.parents) :
    file.parents = [folder] := by
  obtain ⟨only, parents⟩ := List.length_eq_one_iff.mp
    (Nat.le_antisymm (single file held) (List.length_pos_of_mem inside))
  rw [parents, List.mem_singleton] at inside
  rw [parents, inside]

theorem DistinctIds.eq {drive : Drive} (distinct : drive.DistinctIds) {a b : StoredFile}
    (ha : a ∈ drive.files) (hb : b ∈ drive.files) (same : a.id = b.id) : a = b :=
  List.inj_on_of_nodup_map distinct ha hb same

def applyAll (drive : Drive) (changes : List Change) : Drive := changes.foldl Change.apply drive

theorem applyAll_append (drive : Drive) (changes more : List Change) :
    drive.applyAll (changes ++ more) = (drive.applyAll changes).applyAll more :=
  List.foldl_append

/-- None of the changes is refused where the drive comes to it. -/
def Accepts (drive : Drive) : List Change → Prop
  | [] => True
  | change :: rest => ¬ change.Refused drive ∧ (change.apply drive).Accepts rest

theorem accepts_append {drive : Drive} {changes more : List Change} :
    drive.Accepts (changes ++ more) ↔
      drive.Accepts changes ∧ (drive.applyAll changes).Accepts more := by
  induction changes generalizing drive with
  | nil => simp [Accepts, applyAll]
  | cons change rest ih =>
    rw [List.cons_append, Accepts, Accepts, ih, and_assoc]
    rfl

theorem files_applyAll (drive : Drive) (changes : List Change) :
    (drive.applyAll changes).files = drive.files.filterMap (Change.outcomes changes) := by
  induction changes generalizing drive with
  | nil => exact List.filterMap_some.symm
  | cons change rest ih =>
    change ((change.apply drive).applyAll rest).files = _
    rw [ih, Change.apply, List.filterMap_filterMap]
    rfl

theorem mem_files_applyAll {drive : Drive} {changes : List Change} {after : StoredFile} :
    after ∈ (drive.applyAll changes).files ↔
      ∃ file ∈ drive.files, Change.outcomes changes file = some after := by
  rw [files_applyAll, List.mem_filterMap]

/-- A file that no change drops is still there. -/
theorem exists_mem_applyAll {drive : Drive} {file : StoredFile} (held : file ∈ drive.files)
    {changes : List Change} (stays : Change.drop file.id ∉ changes) :
    ∃ after ∈ (drive.applyAll changes).files, Change.Kept file after := by
  obtain ⟨after, becomes⟩ := Change.exists_outcomes stays
  exact ⟨after, mem_files_applyAll.mpr ⟨file, held, becomes⟩, Change.kept_of_outcomes becomes⟩

/-- Every file that is there has been there. -/
theorem exists_kept_of_mem_applyAll {drive : Drive} {changes : List Change} {after : StoredFile}
    (there : after ∈ (drive.applyAll changes).files) :
    ∃ before ∈ drive.files, Change.Kept before after := by
  obtain ⟨before, held, becomes⟩ := mem_files_applyAll.mp there
  exact ⟨before, held, Change.kept_of_outcomes becomes⟩

/-- No change touches a file that none is about. -/
theorem mem_applyAll_of_forall_ne {drive : Drive} {changes : List Change} {file : StoredFile}
    (other : ∀ change ∈ changes, change.file ≠ file.id) :
    file ∈ (drive.applyAll changes).files ↔ file ∈ drive.files := by
  rw [mem_files_applyAll]
  constructor
  · rintro ⟨before, held, becomes⟩
    have same := (Change.kept_of_outcomes becomes).id
    rw [Change.outcomes_of_forall_ne (same ▸ other)] at becomes
    obtain rfl := Option.some.inj becomes
    exact held
  · intro held
    exact ⟨file, held, Change.outcomes_of_forall_ne other⟩

theorem files_drops (drive : Drive) (ids : List String) :
    (drive.applyAll (ids.map .drop)).files = drive.files.filter (·.id ∉ ids) := by
  rw [files_applyAll, ← List.filterMap_eq_filter]
  congr 1
  funext file
  rw [Change.outcomes_drops]
  by_cases among : file.id ∈ ids <;> simp [Option.guard, among]

/-- Dropping leaves the files of all other ids as they are. -/
theorem mem_files_drops {drive : Drive} {ids : List String} {file : StoredFile} :
    file ∈ (drive.applyAll (ids.map .drop)).files ↔ file ∈ drive.files ∧ file.id ∉ ids := by
  rw [files_drops, List.mem_filter, decide_eq_true_iff]

theorem file?_eq_some {drive : Drive} {id : String} {file : StoredFile}
    (h : drive.file? (.string id) = some file) : file ∈ drive.files ∧ file.id = id ∧ id ≠ "" := by
  rw [file?.eq_def] at h
  split at h
  · contradiction
  · rename_i named heq
    obtain rfl := Json.string.inj heq
    have same : file.id = id := by simpa using List.find?_some h
    exact ⟨List.mem_of_find?_eq_some h, same, fun empty => named (by rw [empty])⟩
  · contradiction

theorem file?_of_ne_empty (drive : Drive) {id : String} (addressed : id ≠ "") :
    drive.file? (.string id) = drive.files.find? (·.id == id) := by
  rw [file?.eq_def]
  split
  · rename_i heq
    exact absurd (Json.string.inj heq) addressed
  · rename_i heq
    obtain rfl := Json.string.inj heq
    rfl
  · rename_i other
    exact absurd rfl (other _)

theorem holds_string {drive : Drive} {id : String} :
    drive.holds (.string id) = true ↔ id ≠ "" ∧ ∃ file ∈ drive.files, file.id = id := by
  rw [holds, Option.isSome_iff_exists]
  constructor
  · rintro ⟨file, found⟩
    obtain ⟨held, same, addressed⟩ := file?_eq_some found
    exact ⟨addressed, file, held, same⟩
  · rintro ⟨addressed, file, held, same⟩
    rw [file?_of_ne_empty drive addressed, ← Option.isSome_iff_exists, List.find?_isSome]
    exact ⟨file, held, by simpa using same⟩

theorem newId_ne_empty (drive : Drive) : drive.newId ≠ "" := by
  intro h
  have := congrArg String.length h
  simp [newId, String.length_append] at this

theorem Addressed.append {drive : Drive} (addressed : drive.Addressed) (new : StoredFile)
    (named : new.id ≠ "") (created : Nat) :
    Addressed { drive with files := drive.files ++ [new], created := created } := by
  intro file held
  obtain old | last := List.mem_append.mp held
  · exact addressed file old
  · obtain rfl := List.mem_singleton.mp last
    exact named

theorem Addressed.applyAll {drive : Drive} (addressed : drive.Addressed) (changes : List Change) :
    (drive.applyAll changes).Addressed := by
  intro file held
  obtain ⟨before, there, kept⟩ := exists_kept_of_mem_applyAll held
  rw [kept.id]
  exact addressed before there

/-- Only texts are ids of what the drive holds. -/
theorem exists_of_holds {drive : Drive} {id : Json} (held : drive.holds id = true) :
    ∃ text, id = .string text := by
  cases id with
  | string text => exact ⟨text, rfl⟩
  | _ => cases held

theorem file?_of_mem {drive : Drive} (distinct : drive.DistinctIds) {file : StoredFile}
    (held : file ∈ drive.files) (addressed : file.id ≠ "") :
    drive.file? (.string file.id) = some file := by
  rw [file?_of_ne_empty drive addressed]
  cases first : drive.files.find? (·.id == file.id) with
  | none =>
    have := List.find?_eq_none.mp first file held
    simp at this
  | some other =>
    have same : other.id = file.id := by simpa using List.find?_some first
    rw [distinct.eq (List.mem_of_find?_eq_some first) held same]

theorem DistinctIds.applyAll {drive : Drive} (distinct : drive.DistinctIds)
    (changes : List Change) : (drive.applyAll changes).DistinctIds := by
  rw [DistinctIds, List.Nodup, List.pairwise_map] at distinct ⊢
  rw [files_applyAll]
  apply distinct.filterMap _
  intro file other differ after becomes after' becomes'
  rw [(Change.kept_of_outcomes becomes).id, (Change.kept_of_outcomes becomes').id]
  exact differ

/-- A file that no change drops is still found under its id. -/
theorem exists_file?_applyAll {drive : Drive} (distinct : drive.DistinctIds) {file : StoredFile}
    (held : file ∈ drive.files) (addressed : file.id ≠ "") {changes : List Change}
    (kept : Change.drop file.id ∉ changes) :
    ∃ after, (drive.applyAll changes).file? (.string file.id) = some after ∧
      Change.outcomes changes file = some after := by
  obtain ⟨after, becomes⟩ := Change.exists_outcomes kept
  have same := (Change.kept_of_outcomes becomes).id
  refine ⟨after, ?_, becomes⟩
  rw [← same]
  exact file?_of_mem (distinct.applyAll changes) (mem_files_applyAll.mpr ⟨file, held, becomes⟩)
    (same ▸ addressed)

/-- Changes are about files only. -/
theorem applyAll_eq (drive : Drive) (changes : List Change) :
    drive.applyAll changes = { drive with files := (drive.applyAll changes).files } := by
  induction changes generalizing drive with
  | nil => rfl
  | cons change rest ih => exact ih (change.apply drive)

/-- Changing a file in place is what becomes of it. -/
theorem change_eq (drive : Drive) {change : Change} {id : String} {f : StoredFile → StoredFile}
    (about : change.file = id) (does : ∀ file, change.effect file = some (f file)) :
    drive.change id f = change.apply drive := by
  rw [Drive.change, Change.apply, ← List.filterMap_eq_map]
  congr 2
  funext file
  by_cases same : file.id = id <;> simp [Change.outcome, about, does, same]

theorem filter_eq (drive : Drive) (id : String) :
    { drive with files := drive.files.filter (·.id != id) } = (Change.drop id).apply drive := by
  rw [Change.apply, ← List.filterMap_eq_filter]
  congr 2
  funext file
  by_cases same : file.id = id <;>
    simp [Change.outcome, Change.file, Change.effect, Option.guard, same]

/-- The drive either makes the change or refuses it. -/
theorem answer_change (drive : Drive) (change : Change) :
    (drive.answer change.request = .error .notFound ∧ change.Refused drive) ∨
      drive.answer change.request = .ok (change.reply, change.apply drive) := by
  cases change with
  | retitle id title =>
    cases held : drive.file? (.string id) with
    | none => exact .inl ⟨by simp [Change.request, answer, rename, held], held⟩
    | some file =>
      obtain ⟨_, rfl, _⟩ := file?_eq_some held
      rw [← change_eq drive rfl fun _ => rfl]
      exact .inr (by simp [Change.request, answer, rename, held, Change.reply, Change.file])
  | leave id folder =>
    cases held : drive.file? (.string id) with
    | none =>
      exact .inl ⟨by simp [Change.request, answer, removeParent, held],
        by simp [Change.Refused, held]⟩
    | some file =>
      obtain ⟨_, rfl, _⟩ := file?_eq_some held
      by_cases inside : folder ∈ file.parents
      · rw [← change_eq drive rfl fun _ => rfl]
        exact .inr (by simp [Change.request, answer, removeParent, held, inside, Change.reply,
          Change.file])
      · exact .inl ⟨by simp [Change.request, answer, removeParent, held, inside],
          by simp [Change.Refused, held, inside]⟩
  | enter id folder =>
    cases held : drive.file? (.string id) with
    | none => exact .inl ⟨by simp [Change.request, answer, addParent, held], .inl held⟩
    | some file =>
      obtain ⟨_, rfl, _⟩ := file?_eq_some held
      cases there : drive.holds (.string folder) with
      | false =>
        exact .inl ⟨by simp [Change.request, answer, addParent, held, there], .inr there⟩
      | true =>
        rw [← change_eq drive rfl fun _ => rfl]
        exact .inr (by simp [Change.request, answer, addParent, held, there, Change.reply,
          Change.file])
  | drop id =>
    cases held : drive.file? (.string id) with
    | none => exact .inl ⟨by simp [Change.request, answer, delete, held], held⟩
    | some file =>
      obtain ⟨_, rfl, _⟩ := file?_eq_some held
      rw [← filter_eq]
      exact .inr (by simp [Change.request, answer, delete, held, Change.reply])

theorem answer_of_refused {drive : Drive} {change : Change} (refused : change.Refused drive) :
    drive.answer change.request = .error .notFound := by
  cases change with
  | retitle | drop =>
    rw [Change.Refused] at refused
    simp [Change.request, answer, rename, delete, refused]
  | leave id folder =>
    cases held : drive.file? (.string id) with
    | none => simp [Change.request, answer, removeParent, held]
    | some file => simp [Change.request, answer, removeParent, held, refused file held]
  | enter id folder =>
    obtain missing | missing := refused
    · simp [Change.request, answer, addParent, missing]
    · cases held : drive.file? (.string id) <;>
        simp [Change.request, answer, addParent, held, missing]

end Drive

namespace Operation

/-- The changes that have been made are the first of those that are to be made, and the drive has
accepted each of them. -/
structure Made (drive : Drive) (done changes : List Change) : Prop where
  first : done <+: changes
  accepted : drive.Accepts done

/-- Where an operation that is to make changes has come to: it has made the first of them, and all
of them if it succeeds. It fails only where a fault raises or where the drive refuses the change
that comes next. -/
structure Performed (changes : List Change) (s : Session) (outcome : Except Failure α)
    (t : Session) : Prop where
  around : s.SameAround t
  drive : ∃ done, Made s.drive done changes ∧ t.drive = s.drive.applyAll done ∧
    match outcome with
    | .ok _ => done = changes
    | .error failure => s.schedule.Raises failure ∨
        ∃ change, done ++ [change] <+: changes ∧ change.Refused t.drive

variable {s : Session}

theorem Made.nil (drive : Drive) (changes : List Change) : Made drive [] changes :=
  ⟨List.nil_prefix, trivial⟩

theorem Performed.nil {t : Session} {a : α} (same : s.SameState t) : Performed [] s (.ok a) t :=
  ⟨same.toSameAround, [], .nil _ _, same.drive, rfl⟩

theorem change_ends (raising : s.schedule.Raising) (change : Change) :
    (Operation.request change.request).Ends s fun outcome t =>
      Performed [change] s outcome t ∧ ∀ value, outcome = .ok value → value = change.reply := by
  apply (request_ends raising change.request).mono
  intro outcome t requested
  have around := requested.sameAround
  obtain ⟨answer, refused⟩ | answer := s.drive.answer_change change
  · cases requested with
    | refused _ =>
      exact ⟨⟨around, [], .nil _ _, rfl, .inr ⟨change, List.prefix_rfl, refused⟩⟩, by simp⟩
    | raised raises => exact ⟨⟨around, [], .nil _ _, rfl, .inl raises⟩, by simp⟩
    | answered h | raisedLate _ h => simp [answer] at h
  · have made : Made s.drive [change] [change] := by
      refine ⟨List.prefix_rfl, fun refused => ?_, trivial⟩
      rw [Drive.answer_of_refused refused] at answer
      cases answer
    cases requested with
    | answered h =>
      obtain ⟨rfl, rfl⟩ := Prod.mk.inj (Except.ok.inj (h.symm.trans answer))
      exact ⟨⟨around, [change], made, rfl, rfl⟩, fun _ h => (Except.ok.inj h).symm⟩
    | raised raises => exact ⟨⟨around, [], .nil _ _, rfl, .inl raises⟩, by simp⟩
    | raisedLate raises h =>
      obtain ⟨rfl, rfl⟩ := Prod.mk.inj (Except.ok.inj (h.symm.trans answer))
      exact ⟨⟨around, [change], made, rfl, .inl raises⟩, by simp⟩
    | refused h => simp [answer] at h

section
variable {changes more : List Change} {t u : Session}

theorem Performed.of_sameState {outcome : Except Failure α} (same : s.SameState t)
    (h : Performed changes t outcome u) : Performed changes s outcome u := by
  obtain ⟨around, done, made, drive, stopped⟩ := h
  refine ⟨same.toSameAround.trans around, done, same.drive ▸ made, by rw [drive, same.drive], ?_⟩
  cases outcome with
  | ok _ => exact stopped
  | error failure => exact stopped.imp (same.raises_iff _).mp id

theorem Performed.then_sameState {outcome : Except Failure α}
    (h : Performed changes s outcome t) (same : t.SameState u) : Performed changes s outcome u := by
  obtain ⟨around, done, made, drive, stopped⟩ := h
  exact ⟨around.trans same.toSameAround, done, made, same.drive.trans drive, same.drive ▸ stopped⟩

theorem Performed.trans {a : α} {outcome : Except Failure β} (h : Performed changes s (.ok a) t)
    (k : Performed more t outcome u) : Performed (changes ++ more) s outcome u := by
  obtain ⟨around, done, ⟨_, accepted⟩, drive, rfl⟩ := h
  obtain ⟨around', done', ⟨first, accepted'⟩, drive', stopped⟩ := k
  refine ⟨around.trans around', done ++ done', ⟨?_, ?_⟩, ?_, ?_⟩
  · exact (List.prefix_append_right_inj _).mpr first
  · exact Drive.accepts_append.mpr ⟨accepted, drive ▸ accepted'⟩
  · rw [drive', drive, Drive.applyAll_append]
  · cases outcome with
    | ok _ => simp only at stopped; rw [stopped]
    | error failure =>
      obtain raises | ⟨change, next, refused⟩ := stopped
      · exact .inl ((around.raises_iff _).mp raises)
      · refine .inr ⟨change, ?_, refused⟩
        rw [List.append_assoc]
        exact (List.prefix_append_right_inj _).mpr next

theorem Performed.failed {failure : Failure}
    (h : Performed changes s (.error failure : Except Failure α) t) (more : List Change) :
    Performed (changes ++ more) s (.error failure : Except Failure β) t := by
  obtain ⟨around, done, ⟨first, accepted⟩, drive, stopped⟩ := h
  refine ⟨around, done, ⟨first.trans (List.prefix_append _ _), accepted⟩, drive, ?_⟩
  obtain raises | ⟨change, next, refused⟩ := stopped
  · exact .inl raises
  · exact .inr ⟨change, next.trans (List.prefix_append _ _), refused⟩

/-- The value that an operation returns does not matter. -/
theorem Performed.returning {a : α} (h : Performed changes s (.ok a) t) (b : β) :
    Performed changes s (.ok b) t := by
  simpa using h.trans (Performed.nil (a := b) (.refl t))

end

end Operation

end DriveDepot
