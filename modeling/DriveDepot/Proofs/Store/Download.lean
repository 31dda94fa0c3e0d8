import DriveDepot.Proofs.Download
import DriveDepot.Proofs.Store

namespace DriveDepot

open Operation

theorem Session.SameButDisk.sound {s t : Session} (same : s.SameButDisk t) (sound : s.Sound)
    (tree : t.disk.Tree) (clean : t.disk.scratch = none) : t.Sound where
  calm := same.faults.trans sound.calm
  paged := same.drive ▸ sound.paged
  sized := same.drive ▸ sound.sized
  whole := same.layout ▸ sound.whole
  tidy := by
    rw [same.drive, same.layout]
    exact sound.tidy
  tree := tree
  clean := clean

theorem Session.SameButDisk.store {s t : Session} (same : s.SameButDisk t) :
    t.store = { s.store with disk := t.disk } := by
  rw [Session.store, same.drive, same.layout]
  rfl

namespace Repository

variable {s : Session} {file : RemoteFile} {target : LocalPath}

/-- Where nothing goes wrong, a download fails only if there is no file of the name. -/
theorem DownloadFailed.eq_missing (sound : s.Sound) (ordinary : Store.Ordinary file.name)
    {directory : Place} (writable : s.disk.Writable target directory) {failure : Failure}
    (h : DownloadFailed file target s failure) :
    s.store.get file = none ∧ failure = Store.missing s.layout file := by
  have told := sound.whole.folderFor file.category
  obtain located | ⟨_, located, unfetched⟩ :=
    h.of_writable sound.calm sound.tree told writable
  · obtain ⟨absent, same⟩ | ⟨_, _, same⟩ := sound.located ordinary located
    · exact ⟨absent, Except.error.inj same⟩
    · cases same
  · obtain ⟨_, same⟩ | ⟨stored, there, same⟩ := sound.located ordinary located
    · cases same
    · obtain rfl := Except.ok.inj same
      obtain empty | gone := unfetched
      · have url := sound.tidy.urls _ stored there.held there.isAt.kept there.isAt.inside
          there.isAt.noFolder
        cases url.symm.trans empty
      · cases gone.symm.trans (sound.tidy.file?_eq there.held)

/-- A download that succeeds has written the content that the store has. -/
theorem Downloaded.eq_write (sound : s.Sound) (ordinary : Store.Ordinary file.name)
    {directory : Place} (writable : s.disk.Writable target directory) {t : Session}
    {folder : String} {found : FoundFile} {stored : StoredFile}
    (h : Downloaded file target s t folder found stored) :
    s.store.get file = some stored.content ∧
      t.disk = s.disk.set (directory ++ [target.name]) (.file stored.content) := by
  obtain rfl := Json.string.inj ((sound.whole.folderFor file.category).symm.trans h.text)
  obtain ⟨_, same⟩ | ⟨other, there, same⟩ := sound.located ordinary h.located
  · cases same
  · obtain rfl := Except.ok.inj same
    obtain rfl := Option.some.inj ((sound.tidy.file?_eq there.held).symm.trans h.held)
    obtain ⟨place, located, _, disk⟩ := h.disk
    obtain rfl := Except.ok.inj (writable.locate.symm.trans located)
    have discarded : s.disk.discard = s.disk := by rw [Disk.discard, ← sound.clean]
    exact ⟨there.content, by rw [disk, discarded]⟩

end Repository

theorem Action.download_refines {s : Session} (sound : s.Sound) {file : RemoteFile}
    {target : LocalPath} (admitted : s.store.Admits (.download file target)) :
    (Action.download file target).Refines s := by
  obtain ⟨ordinary, directory, writable⟩ := admitted
  cases named : Repository.denotesNoFile file.name with
  | true =>
    have nothing := Repository.download_of_denotesNoFile named target s
    apply Ends.then_nil
    rw [Ends, nothing]
    exact ⟨sound, rfl, by simp [Store.next, named], by simp [Store.Answers, named, Except.map]⟩
  | false =>
    refine Ends.then_nil ((Repository.download_ends_of_disposes sound.calm.raising sound.sized
      named (writable.disposes sound.tree)).mono ?_)
    rintro outcome t ⟨same, ended⟩
    cases outcome with
    | ok _ =>
      obtain ⟨folder, found, stored, downloaded⟩ := ended
      obtain ⟨content, disk⟩ := downloaded.eq_write sound ordinary writable
      have written : s.store.disk.write target stored.content = .ok t.disk := by
        rw [disk]
        exact writable.write stored.content
      have clean : t.disk.scratch = none := by
        rw [disk]
        exact sound.clean
      refine ⟨same.sound sound (disk ▸ sound.tree.set writable _) clean, same.layout, ?_, ?_⟩
      · simp only [Store.next, named, Bool.false_eq_true, ↓reduceIte, content, written]
        exact same.store
      · simp [Store.Answers, content, Except.map]
    | error failure =>
      obtain ⟨why, disk⟩ := ended
      obtain ⟨absent, rfl⟩ := why.eq_missing sound ordinary writable
      have discarded : s.disk.discard = s.disk := by rw [Disk.discard, ← sound.clean]
      rw [discarded, or_self] at disk
      refine ⟨same.sound sound (disk ▸ sound.tree) (disk ▸ sound.clean), same.layout, ?_, ?_⟩
      · simp only [Store.next, named, Bool.false_eq_true, ↓reduceIte, absent]
        rw [same.store, disk]
        rfl
      · simp [Store.Answers, named, absent, Except.map]

end DriveDepot
