import DriveDepot.Proofs.Delete
import DriveDepot.Proofs.Store

namespace DriveDepot

open Operation

namespace Drive

theorem DistinctIds.exchanged_drops {drive : Drive} (distinct : drive.DistinctIds)
    (ids : List String) : drive.Exchanged (drive.applyAll (ids.map .drop)) ids none where
  distinct := distinct.applyAll _
  created := Nat.le_of_eq (by rw [applyAll_eq])
  mem file := by
    rw [mem_files_drops]
    simp

end Drive

theorem Action.delete_refines {s : Session} (sound : s.Sound) {file : RemoteFile}
    (ordinary : Store.Ordinary file.name) : (Action.delete file).Refines s := by
  have tidy := sound.tidy
  refine Ends.then_nil ((Repository.remove_calm sound.calm sound.paged tidy.distinct
    tidy.addressed (sound.whole.folderFor _)).mono ?_)
  rintro _ t ⟨rfl, around, drive⟩
  have exchanged := tidy.distinct.exchanged_drops
    ((s.drive.matching (some (s.layout.folder file.category.slot?)) (some file.name)).map (·.id))
  rw [← drive] at exchanged
  have after : t.drive.Tidy s.layout.folder :=
    tidy.exchanged exchanged
      (fun other held gone => (sound.isAt_of_listed ordinary held gone).noFolder) (by simp)
  refine ⟨sound.of_sameAround around (by rw [drive, Drive.applyAll_eq])
    (by rw [drive, Drive.applyAll_eq]) after, around.layout, ?_, rfl⟩
  ext1
  · funext place name
    rw [Session.store, around.layout]
    by_cases key : place = file.category.slot? ∧ name = file.name
    · obtain ⟨rfl, rfl⟩ := key
      rw [Store.next, Store.put_same]
      apply Drive.contentAt_eq_none
      intro other held there
      obtain ⟨old, stays⟩ | none := (exchanged.mem other).mp held
      · exact stays (sound.listed_of_isAt ordinary old there)
      · cases none
    · rw [Store.next, Store.put_other _ _ _ key]
      apply exchanged.contentAt_same tidy after (by simp)
      intro other held there gone
      apply key
      have there' := sound.isAt_of_listed ordinary held gone
      exact tidy.key_eq sound.whole.distinct held there there'
  · exact around.disk

end DriveDepot
