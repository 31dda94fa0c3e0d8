import DriveDepot.Proofs.Store
import DriveDepot.Proofs.Upload

namespace DriveDepot

open Operation

namespace Drive

section
variable {drive : Drive} {folder : Option Slot → String} {place : Option Slot} {name : String}

theorem Tidy.unused (tidy : drive.Tidy folder) : ∀ file ∈ drive.files, file.id ≠ drive.newId :=
  fun file held => tidy.fresh file held _ (Nat.lt_succ_self _)

theorem noFolder_newFile (drive : Drive) (title folder : String) (content : Bytes) :
    (drive.newFile title folder content).isFolder = false := by
  change (contentType == Query.folderMimeType) = false
  decide

theorem isAt_newFile (drive : Drive) (folder name : String) (content : Bytes) :
    (drive.newFile name folder content).IsAt folder name :=
  ⟨rfl, noFolder_newFile .., by simp [newFile], rfl⟩

theorem Tidy.exchanged_added (tidy : drive.Tidy folder) (name : String) (place : Option Slot)
    (content : Bytes) :
    drive.Exchanged (drive.added name (folder place) content) []
      (some (drive.newFile name (folder place) content)) where
  distinct := tidy.distinct.added tidy.unused ..
  created := Nat.le_succ _
  mem file := by simp [added, eq_comm]

theorem Tidy.added (tidy : drive.Tidy folder) (ordinary : Store.Ordinary name)
    (absent : drive.contentAt (folder place) name = none) (content : Bytes) :
    (drive.added name (folder place) content).Tidy folder := by
  apply tidy.exchanged (tidy.exchanged_added name place content) (by simp)
  rintro file ⟨⟩
  refine ⟨newId_ne_empty drive, ?_, noFolder_newFile .., ⟨place, rfl⟩, ?_, ?_⟩
  · intro n later same
    have latest := Text.Decimal.text_injective ((String.append_right_inj _).mp same)
    exact absurd latest (Nat.ne_of_lt later)
  · simp [newFile, defaultUrl, contentType, Query.folderMimeType]
  · intro other held _ kept place' inside inside' title
    have there : folder place ∈ other.parents := List.mem_singleton.mp inside ▸ inside'
    exact tidy.not_isAt_of_contentAt_eq_none absent held
      (tidy.isAt ordinary.unreserved held kept there title)

end

end Drive

theorem Action.upload_refines {s : Session} (sound : s.Sound) {source : LocalPath}
    {file : RemoteFile} (admitted : s.store.Admits (.upload source file)) :
    (Action.upload source file).Refines s := by
  obtain ⟨ordinary, absent, content, read⟩ := admitted
  have tidy := sound.tidy
  refine Ends.then_nil ((Repository.upload_calm sound.calm tidy.unused
    ⟨read, sound.whole.folderFor _, tidy.holds _⟩).mono ?_)
  rintro _ t ⟨rfl, around, drive⟩
  have after := tidy.added ordinary absent content
  refine ⟨sound.of_sameAround around (by rw [drive]; rfl) (by rw [drive]; rfl) (drive ▸ after),
    around.layout, ?_, rfl⟩
  have exchanged := tidy.exchanged_added file.name file.category.slot? content
  ext1
  · funext place name
    rw [Session.store, Store.next, read, drive, around.layout]
    by_cases key : place = file.category.slot? ∧ name = file.name
    · obtain ⟨rfl, rfl⟩ := key
      rw [Store.put_same]
      exact exchanged.contentAt_new after rfl (Drive.isAt_newFile ..)
    · rw [Store.put_other _ _ _ key]
      refine exchanged.contentAt_same tidy after ?_ (by simp)
      rintro _ ⟨⟩ there
      have inside : s.layout.folder place = s.layout.folder file.category.slot? :=
        List.mem_singleton.mp there.inside
      exact key ⟨sound.whole.distinct _ _ inside, there.title.symm⟩
  · rw [Store.next, read]
    exact around.disk

end DriveDepot
