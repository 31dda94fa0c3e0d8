import DriveDepot.Proofs.Store.Delete
import DriveDepot.Proofs.Store.Download
import DriveDepot.Proofs.Store.Listing
import DriveDepot.Proofs.Store.Move
import DriveDepot.Proofs.Store.Upload

namespace DriveDepot

theorem Action.refines {s : Session} (sound : s.Sound) {action : Action}
    (admitted : s.store.Admits action) : action.Refines s := by
  cases action with
  | upload => exact upload_refines sound admitted
  | download => exact download_refines sound admitted
  | delete => exact delete_refines sound admitted
  | move => exact move_refines sound admitted
  | list => exact list_refines sound admitted

/-- Each action of a run refines the one of the store, whatever the actions before it have done and
whether they have succeeded or not. -/
theorem Session.runAll_refines {s : Session} (sound : s.Sound) {actions : List Action}
    (admitted : s.store.AdmitsAll actions) :
    (runAll actions s).2.Sound ∧ (runAll actions s).2.layout = s.layout ∧
      (runAll actions s).2.store = s.store.run actions ∧
        s.store.AnswersAll s.layout actions (runAll actions s).1 := by
  induction actions generalizing s with
  | nil => exact ⟨sound, rfl, rfl, rfl⟩
  | cons action rest ih =>
    obtain ⟨first, later⟩ := admitted
    obtain ⟨sound', layout, store, answers⟩ := Action.refines sound first
    rw [← store] at later
    obtain ⟨sound'', layout', store', others⟩ := ih sound' later
    rw [layout] at layout' others
    rw [store] at store' others
    exact ⟨sound'', layout', store', _, _, rfl, answers, others⟩

/-- A file in the temporary folder, and a file on the local disk. -/
def smallStart : Session :=
  Repository.smallSession [Repository.smallFile "1" "temp-1" "temporary" [1, 2, 3]] []
    (Disk.empty.set (Disk.workingDirectory ++ ["in"]) (.file [4, 5]))

theorem sound_smallStart : smallStart.Sound where
  calm := rfl
  paged := by decide
  sized := by decide
  whole := by
    refine ⟨?_, by decide +kernel, by decide +kernel, by decide +kernel⟩
    rintro (_ | _ | _ | _ | _ | _) <;> rfl
  tidy := by
    refine ⟨by decide +kernel, by decide +kernel, by decide +kernel, ?_, by decide +kernel,
      by decide +kernel, by decide +kernel, by decide +kernel⟩
    have others : ∀ file ∈ smallStart.drive.files, file.id.toList.take 3 ≠ "new".toList := by
      decide +kernel
    exact fun file held n _ => Drive.ne_new (others file held) _
  tree := .of_entries (by decide +kernel)
  clean := rfl

/-- A name of the root folder. -/
def smallNote : RemoteFile := ⟨.generic, "note", by decide +kernel⟩

/-- A new file is replaced by another one, which is read and deleted. -/
def smallActions : List Action :=
  [.upload ⟨.none, ["in"]⟩ smallNote, .move Repository.smallSource smallNote,
    .download smallNote ⟨.none, ["out"]⟩, .delete smallNote, .list .temp]

theorem admitsAll_smallActions : smallStart.store.AdmitsAll smallActions := by
  have source : Store.Ordinary Repository.smallSource.name :=
    ⟨by decide +kernel, by decide +kernel⟩
  have note : Store.Ordinary smallNote.name := ⟨by decide +kernel, by decide +kernel⟩
  refine ⟨⟨note, by decide +kernel, _, rfl⟩, ⟨source, note⟩,
    ⟨note, Disk.workingDirectory, ?_⟩, note, (nofun : Category.temp ≠ .generic), trivial⟩
  constructor <;> decide +kernel

theorem runAll_refines_smallActions :
    smallStart.Sound ∧ smallStart.store.AdmitsAll smallActions ∧
      (Session.runAll smallActions smallStart).2.Sound ∧
      (Session.runAll smallActions smallStart).2.layout = smallStart.layout ∧
      (Session.runAll smallActions smallStart).2.store = smallStart.store.run smallActions ∧
      smallStart.store.AnswersAll smallStart.layout smallActions
        (Session.runAll smallActions smallStart).1 := by
  have sound := sound_smallStart
  have admitted := admitsAll_smallActions
  exact ⟨sound, admitted, Session.runAll_refines sound admitted⟩

end DriveDepot
