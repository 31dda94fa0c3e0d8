import DriveDepot.Proofs.Disk.Tree
import DriveDepot.Proofs.Move
import DriveDepot.Proofs.Tidy

namespace DriveDepot

inductive Action
  | upload (source : LocalPath) (file : RemoteFile)
  | download (file : RemoteFile) (target : LocalPath)
  | delete (file : RemoteFile)
  | move (source target : RemoteFile)
  | list (category : Category)

/-- Only a listing gives files. -/
def Action.operation : Action → Operation (List RemoteFile)
  | .upload source file => do Repository.upload source file; return []
  | .download file target => do Repository.download file target; return []
  | .delete file => do Repository.remove file; return []
  | .move source target => do Repository.move source target; return []
  | .list category => Repository.list category

/-- The contents by folder and name, the root folder being none of the category folders. -/
@[ext]
structure Store where
  content : Option Slot → String → Option Bytes
  disk : Disk

namespace Store

def get (store : Store) (file : RemoteFile) : Option Bytes :=
  store.content file.category.slot? file.name

/-- The store with another content, or without one, for a file. -/
def put (store : Store) (file : RemoteFile) (content : Option Bytes) : Store :=
  { store with
    content := fun place name =>
      if place = file.category.slot? ∧ name = file.name then content
      else store.content place name }

/-- What an action makes of a store. -/
def next (store : Store) : Action → Store
  | .upload source file =>
    match store.disk.read source with
    | .ok content => store.put file (some content)
    | .error _ => store
  | .download file target =>
    if Repository.denotesNoFile file.name then store
    else match store.get file with
      | none => store
      | some content =>
        match store.disk.write target content with
        | .ok disk => { store with disk := disk }
        | .error _ => store
  | .delete file => store.put file none
  | .move source target =>
    match store.get source with
    | none => store
    | some content => (store.put source none).put target (some content)
  | .list _ => store

/-- The failure that there is no file of the name. -/
def missing (layout : Layout) (file : RemoteFile) : Failure :=
  .ofStorage (.fileMissing file.name (layout.folder file.category.slot?))

/-- What an action answers: a download and a move fail if there is no file of the name, a listing
tells each name of the category once, and all else succeeds. -/
def Answers (layout : Layout) (store : Store) :
    Action → Except Failure (List RemoteFile) → Prop
  | .upload .., outcome | .delete _, outcome => outcome = .ok []
  | .download file _, outcome =>
    if Repository.denotesNoFile file.name = true ∨ (store.get file).isSome = true then
      outcome = .ok []
    else outcome = .error (missing layout file)
  | .move source target, outcome =>
    if (store.get source).isSome = true then outcome = .ok []
    else outcome = .error ((missing layout source).wrap
      (.moveFailed (Repository.label layout source) (Repository.label layout target)))
  | .list category, outcome => ∃ files, outcome = .ok files ∧ (files.map (·.name)).Nodup ∧
      ∀ file : RemoteFile,
        file ∈ files ↔ file.category = category ∧ (store.get file).isSome = true

/-- A name that can be searched for and that no folder of the repository has. -/
structure Ordinary (name : String) : Prop where
  quotable : Query.Quotable name
  unreserved : ∀ slot : Slot, name ≠ slot.title

/-- What an action asks of a store: a new file comes from a file that can be read, and a target can
be written. The root folder is not listed. -/
def Admits (store : Store) : Action → Prop
  | .upload source file => Ordinary file.name ∧ store.get file = none ∧
      ∃ content, store.disk.read source = .ok content
  | .download file target => Ordinary file.name ∧ ∃ directory, store.disk.Writable target directory
  | .delete file => Ordinary file.name
  | .move source target => Ordinary source.name ∧ Ordinary target.name
  | .list category => category ≠ .generic

/-- What a run of actions makes of a store. -/
def run (store : Store) (actions : List Action) : Store := actions.foldl next store

/-- Each action is admitted by what the actions before it have left. -/
def AdmitsAll (store : Store) : List Action → Prop
  | [] => True
  | action :: rest => store.Admits action ∧ (store.next action).AdmitsAll rest

/-- Each action answers as the store does that the actions before it have left. -/
def AnswersAll (layout : Layout) (store : Store) :
    List Action → List (Except Failure (List RemoteFile)) → Prop
  | [], outcomes => outcomes = []
  | action :: rest, outcomes => ∃ outcome others, outcomes = outcome :: others ∧
      store.Answers layout action outcome ∧ (store.next action).AnswersAll layout rest others

theorem put_same (store : Store) (file : RemoteFile) (content : Option Bytes) :
    (store.put file content).content file.category.slot? file.name = content := by
  simp [put]

theorem put_other (store : Store) (file : RemoteFile) (content : Option Bytes)
    {place : Option Slot} {name : String}
    (other : ¬ (place = file.category.slot? ∧ name = file.name)) :
    (store.put file content).content place name = store.content place name := by
  simp [put, other]

end Store

namespace Session

/-- What a session means to the one who uses it. -/
def store (s : Session) : Store :=
  ⟨fun place name => s.drive.contentAt (s.layout.folder place) name, s.disk⟩

theorem get_store (s : Session) (file : RemoteFile) :
    s.store.get file = s.drive.contentAt (s.layout.folder file.category.slot?) file.name := rfl

/-- A session in which the folders are maps and nothing goes wrong. -/
structure Sound (s : Session) : Prop where
  calm : s.schedule.Calm
  paged : s.drive.pageSize ≠ some 0
  sized : 0 < s.drive.chunkSize
  whole : s.layout.Whole
  tidy : s.drive.Tidy s.layout.folder
  tree : s.disk.Tree
  clean : s.disk.scratch = none

structure Stored (s : Session) (file : RemoteFile) (stored : StoredFile) : Prop where
  held : stored ∈ s.drive.files
  isAt : stored.IsAt (s.layout.folder file.category.slot?) file.name
  content : s.store.get file = some stored.content

/-- A search for the name of a file finds that file only. -/
theorem Sound.matching_of_isAt {s : Session} (sound : s.Sound) {file : RemoteFile}
    (ordinary : Store.Ordinary file.name) {stored : StoredFile} (held : stored ∈ s.drive.files)
    (there : stored.IsAt (s.layout.folder file.category.slot?) file.name) :
    s.drive.matching (some (s.layout.folder file.category.slot?)) (some file.name) = [stored] :=
  sound.tidy.matching_eq_singleton ordinary.unreserved ordinary.quotable
    (sound.whole.quotable _) held there

/-- A search for a name finds nothing where the store has no content, and else one file. -/
theorem Sound.matching {s : Session} (sound : s.Sound) {file : RemoteFile}
    (ordinary : Store.Ordinary file.name) :
    (s.store.get file = none ∧ s.drive.matching
      (some (s.layout.folder file.category.slot?)) (some file.name) = []) ∨
    ∃ stored, s.Stored file stored ∧ s.drive.matching
      (some (s.layout.folder file.category.slot?)) (some file.name) = [stored] := by
  cases found : s.store.get file with
  | none => exact .inl ⟨rfl, sound.tidy.matching_eq_nil ordinary.unreserved found⟩
  | some content =>
    obtain ⟨stored, held, there, rfl⟩ := Drive.exists_of_contentAt_eq_some found
    exact .inr ⟨stored, ⟨held, there, found⟩, sound.matching_of_isAt ordinary held there⟩

/-- What a search for a name lists is at the place that the name denotes. -/
theorem Sound.isAt_of_listed {s : Session} (sound : s.Sound) {file : RemoteFile}
    (ordinary : Store.Ordinary file.name) {other : StoredFile} (held : other ∈ s.drive.files)
    (listed : other.id ∈ (s.drive.matching (some (s.layout.folder file.category.slot?))
      (some file.name)).map (·.id)) :
    other.IsAt (s.layout.folder file.category.slot?) file.name := by
  obtain ⟨found, member, same⟩ := List.mem_map.mp listed
  obtain ⟨held', kept, title, inside⟩ := Drive.mem_of_matching member
  obtain rfl := sound.tidy.distinct.eq held' held same
  exact sound.tidy.isAt ordinary.unreserved held kept inside title

theorem Sound.listed_of_isAt {s : Session} (sound : s.Sound) {file : RemoteFile}
    (ordinary : Store.Ordinary file.name) {other : StoredFile} (held : other ∈ s.drive.files)
    (there : other.IsAt (s.layout.folder file.category.slot?) file.name) :
    other.id ∈ (s.drive.matching (some (s.layout.folder file.category.slot?))
      (some file.name)).map (·.id) := by
  rw [sound.matching_of_isAt ordinary held there]
  exact List.mem_singleton_self _

theorem Sound.located {s : Session} (sound : s.Sound) {file : RemoteFile}
    (ordinary : Store.Ordinary file.name) {outcome : Except Failure FoundFile}
    (h : Search.Located (s.drive.matching (some (s.layout.folder file.category.slot?))
      (some file.name)) (some (s.layout.folder file.category.slot?)) file.name s outcome) :
    (s.store.get file = none ∧ outcome = .error (Store.missing s.layout file)) ∨
      ∃ stored, s.Stored file stored ∧ outcome = .ok stored.found := by
  obtain ⟨absent, matching⟩ | ⟨stored, there, matching⟩ := sound.matching ordinary
  · rw [matching] at h
    exact .inl ⟨absent, h.eq_missing sound.calm sound.paged⟩
  · rw [matching] at h
    exact .inr ⟨stored, there, h.eq_only sound.calm sound.paged⟩

/-- A session stays sound where only the drive changes and stays tidy. -/
theorem Sound.of_sameAround {s t : Session} (sound : s.Sound) (around : s.SameAround t)
    (pages : t.drive.pageSize = s.drive.pageSize) (chunks : t.drive.chunkSize = s.drive.chunkSize)
    (tidy : t.drive.Tidy s.layout.folder) : t.Sound where
  calm := around.calm sound.calm
  paged := pages ▸ sound.paged
  sized := chunks ▸ sound.sized
  whole := around.layout ▸ sound.whole
  tidy := around.layout ▸ tidy
  tree := around.disk ▸ sound.tree
  clean := around.disk ▸ sound.clean

theorem Sound.of_sameState {s t : Session} (sound : s.Sound) (same : s.SameState t) : t.Sound :=
  sound.of_sameAround same.toSameAround (same.drive ▸ rfl) (same.drive ▸ rfl)
    (same.drive ▸ sound.tidy)

theorem store_of_sameState {s t : Session} (same : s.SameState t) : t.store = s.store := by
  rw [store, store, same.drive, same.layout, same.disk]

end Session

/-- Carrying out the action leaves a sound session, which means what the store says, and answers as
the store does. -/
def Action.Refines (action : Action) (s : Session) : Prop :=
  action.operation.Ends s fun outcome t => t.Sound ∧ t.layout = s.layout ∧
    t.store = s.store.next action ∧ s.store.Answers s.layout action outcome

theorem Operation.Ends.then_nil {operation : Operation Unit} {s : Session}
    {Q : Except Failure (List RemoteFile) → Session → Prop}
    (h : operation.Ends s fun outcome t => Q (outcome.map fun _ => []) t) :
    (do operation; return [] : Operation (List RemoteFile)).Ends s Q :=
  h.bind (fun _ _ ended => ended) fun _ _ ended => ended

/-- Carries out actions one after the other, whether they succeed or not. -/
def Session.runAll : List Action → Session → List (Except Failure (List RemoteFile)) × Session
  | [], s => ([], s)
  | action :: rest, s =>
    let (outcome, t) := action.operation.runOn s
    let (others, u) := runAll rest t
    (outcome :: others, u)

end DriveDepot
