import DriveDepot.Proofs.Browsing
import DriveDepot.Proofs.Folder

/-!
Whether there is one folder of a title, none or several. It is judged by the first page of a listing
alone. Where a page tells of all folders of the title the judgement is right, and of two or more
folders it is right only there: if the pages are shorter their number is told too small, and with one
folder a page the first passes for the only one.
-/

namespace DriveDepot

namespace Drive

/-- Folders that `Chosen` picks among those of each title, each inside the one before, lead along the
titles to `id`. -/
def Leads (drive : Drive) (Chosen : List StoredFile → StoredFile → Prop) (id : String)
    (parent : Option String) : List String → Prop
  | [] => parent = some id
  | title :: rest => ∃ folder, Chosen (drive.folders title parent) folder ∧
    drive.Leads Chosen id (some folder.id) rest

/-- The titles can be quoted, and so can the ids of the folders that are gone into on the way. -/
def Passable (drive : Drive) (parent : Option String) : List String → Prop
  | [] => True
  | title :: rest => (∀ value ∈ title :: parent.toList, Query.Quotable value) ∧
    ∀ id, drive.lookup title parent = .found id → drive.Passable (some id) rest

section
variable {drive : Drive} {title : String} {parent : Option String}

theorem lookup_ne_refused (quotable : ∀ value ∈ title :: parent.toList, Query.Quotable value) :
    drive.lookup title parent ≠ .refused := by
  rw [lookup, if_pos (quotable_ofFolders.mpr (by simpa using quotable))]
  rcases drive.firstPage (drive.folders title parent) with _ | ⟨_, _ | _⟩ <;>
    simp [Lookup.ofPage]

theorem Passable.trail_ne_refused {titles : List String} (passable : drive.Passable parent titles) :
    drive.trail parent titles ≠ .refused := by
  induction titles generalizing parent with
  | nil => cases parent <;> simp
  | cons title rest ih =>
    obtain ⟨quotable, onward⟩ := passable
    rw [trail_cons]
    split
    · rename_i id found
      exact ih (onward id found)
    · exact lookup_ne_refused quotable

/-- A trail leads where the folders lead that a search goes into. -/
theorem Passable.trail_eq_found_iff {Chosen : List StoredFile → StoredFile → Prop}
    (goes : ∀ title parent, (∀ value ∈ title :: parent.toList, Query.Quotable value) → ∀ id,
      drive.lookup title parent = .found id ↔
        ∃ folder, Chosen (drive.folders title parent) folder ∧ folder.id = id)
    {titles : List String} (passable : drive.Passable parent titles) (id : String) :
    drive.trail parent titles = .found id ↔ drive.Leads Chosen id parent titles := by
  induction titles generalizing parent with
  | nil => cases parent <;> simp [Leads]
  | cons title rest ih =>
    obtain ⟨quotable, onward⟩ := passable
    rw [trail_cons_eq_found, Leads]
    constructor
    · rintro ⟨middle, found, later⟩
      obtain ⟨folder, chosen, rfl⟩ := (goes title parent quotable middle).mp found
      exact ⟨folder, chosen, (ih (onward _ found)).mp later⟩
    · rintro ⟨folder, chosen, later⟩
      have found := (goes title parent quotable folder.id).mpr ⟨folder, chosen, rfl⟩
      exact ⟨folder.id, found, (ih (onward _ found)).mpr later⟩

variable (paged : drive.pageSize ≠ some 0)
variable (quotable : ∀ value ∈ title :: parent.toList, Query.Quotable value)
include paged quotable

/-- Where a page can tell of two folders, the only one is gone into. -/
theorem lookup_eq_found_of_wide (wide : drive.pageSize ≠ some 1) (id : String) :
    drive.lookup title parent = .found id ↔
      ∃ folder, drive.folders title parent = [folder] ∧ folder.id = id := by
  have quotable := quotable_ofFolders.mpr (by simpa using quotable)
  rw [lookup_eq_found]
  constructor
  · rintro ⟨_, folder, rest, folders, same, _, narrow | rfl⟩
    · exact absurd narrow wide
    · exact ⟨folder, folders, same⟩
  · rintro ⟨folder, folders, same⟩
    exact ⟨quotable, folder, [], folders, same, paged, .inr rfl⟩

/-- Where each page tells of one folder, the first is gone into. -/
theorem lookup_eq_found_of_narrow (narrow : drive.pageSize = some 1) (id : String) :
    drive.lookup title parent = .found id ↔
      ∃ folder, (drive.folders title parent).head? = some folder ∧ folder.id = id := by
  have quotable := quotable_ofFolders.mpr (by simpa using quotable)
  rw [lookup_eq_found]
  constructor
  · rintro ⟨_, folder, rest, folders, same, _⟩
    exact ⟨folder, by rw [folders]; rfl, same⟩
  · rintro ⟨folder, first, same⟩
    obtain ⟨rest, folders⟩ := List.head?_eq_some_iff.mp first
    exact ⟨quotable, folder, rest, folders, same, paged, .inl narrow⟩

end

end Drive

namespace Folders

open Operation Repository

structure Decides (folders : List StoredFile) (outcome : Except Failure Json) : Prop where
  single : ∀ value, outcome = .ok value ↔ ∃ folder, folders = [folder] ∧ .string folder.id = value
  missing : (∃ error, outcome = .error (.ofStorage error) ∧ error.kind = .notFound) ↔ folders = []
  several : ∀ count,
    (∃ error, outcome = .error (.ofStorage error) ∧ error.kind = .ambiguous count) ↔
      2 ≤ folders.length ∧ count = folders.length

theorem decides_verdict (title : String) (folders : List StoredFile) :
    Decides folders (verdict title folders) := by
  rcases folders with _ | ⟨folder, _ | ⟨other, more⟩⟩
  · constructor <;> simp [verdict, Failure.ofStorage, StorageError.kind]
  · constructor <;> simp [verdict, Failure.ofStorage, StorageError.kind]
  · constructor <;> simp [verdict, Failure.ofStorage, StorageError.kind, eq_comm]

theorem Decides.length_eq {folders others : List StoredFile} {outcome : Except Failure Json}
    (h : Decides folders outcome) (k : Decides others outcome) :
    folders.length = others.length := by
  rcases folders with _ | ⟨folder, _ | ⟨second, more⟩⟩
  · rw [k.missing.mp (h.missing.mpr rfl)]
  · obtain ⟨other, rfl, _⟩ := (k.single _).mp ((h.single _).mpr ⟨folder, rfl, rfl⟩)
    rfl
  · have many : 2 ≤ (folder :: second :: more).length := by simp
    exact ((k.several _).mp ((h.several _).mpr ⟨many, rfl⟩)).2

/-- The first page decides rightly exactly if it tells of all folders. -/
theorem decides_firstPage_iff {drive : Drive} {title : String} {folders : List StoredFile} :
    Decides folders (verdict title (drive.firstPage folders)) ↔
      ∀ size, drive.pageSize = some size → folders.length ≤ size := by
  have shown := decides_verdict title (drive.firstPage folders)
  constructor
  · intro decided size paging
    have same := decided.length_eq shown
    simp only [Drive.firstPage_eq, paging, List.length_take] at same
    omega
  · intro fits
    have whole : drive.firstPage folders = folders := by
      rw [Drive.firstPage_eq]
      split
      · rfl
      · rename_i size paging
        exact List.take_of_length_le (fits size paging)
    rwa [whole] at shown ⊢

section
variable {s : Session} (calm : s.schedule.Calm)
include calm

theorem only_calm {title : String} {parent : Option String}
    (quotable : ∀ value ∈ title :: parent.toList, Query.Quotable value) :
    (only title (within parent)).Ends s fun outcome t => s.SameState t ∧
      outcome = verdict title (s.drive.firstPage (s.drive.folders title parent)) := by
  have read := Drive.quotable_ofFolders.mpr (by simpa using quotable)
  apply (only_ends calm.raising title parent).mono
  rintro outcome t ⟨browsed, found⟩
  refine ⟨browsed.toSameState, ?_⟩
  cases found with
  | single found =>
    rw [lookup_of_quotable s.drive read, Lookup.ofPage_eq_found] at found
    obtain ⟨folder, page, rfl⟩ := found
    rw [← listed, page]
    rfl
  | failed _ told => exact (told (calm.spares _) (Drive.lookup_ne_refused quotable)).symm

theorem follow_calm {titles : List String} (passable : s.drive.Passable none titles) :
    (follow titles).Ends s fun outcome t => s.SameState t ∧
      (outcome = .ok .null ∨ ∃ id, outcome = .ok (.string id)) ∧
      ∀ id, outcome = .ok (.string id) ↔ s.drive.trail none titles = .found id := by
  apply (followFrom_ends calm.raising none titles).mono
  rintro outcome t ⟨browsed, followed⟩
  obtain ⟨value, rfl⟩ := followed.read (calm.spares _) passable.trail_ne_refused
  refine ⟨browsed.toSameState, ?_, fun id => ⟨fun same => ?_, followed.found (calm.spares _) id⟩⟩
  · obtain rfl | ⟨id, rfl, _⟩ := followed.sound value rfl
    · exact .inl rfl
    · exact .inr ⟨id, rfl⟩
  · obtain rfl := Except.ok.inj same
    obtain null | ⟨other, told, found⟩ := followed.sound _ rfl
    · cases null
    · rw [Json.string.inj told, found]

/-- Without faults the folders of the first page decide. They decide rightly if and only if they are
all folders of the title. A path is followed through folders that are the only ones of their titles,
unless each page tells of one folder; then through the first ones. -/
theorem lookups_by_first_page (paged : s.drive.pageSize ≠ some 0) :
    (∀ (title : String) (parent : Option String),
      (∀ value ∈ title :: parent.toList, Query.Quotable value) →
      (only title (within parent)).Ends s fun outcome t => s.SameState t ∧
        Decides (s.drive.firstPage (s.drive.folders title parent)) outcome ∧
        (Decides (s.drive.folders title parent) outcome ↔
          ∀ size, s.drive.pageSize = some size →
            (s.drive.folders title parent).length ≤ size)) ∧
    ∀ titles : List String, s.drive.Passable none titles →
      (follow titles).Ends s fun outcome t => s.SameState t ∧
        (outcome = .ok .null ∨ ∃ id, outcome = .ok (.string id)) ∧
        (s.drive.pageSize ≠ some 1 → ∀ id, outcome = .ok (.string id) ↔
          s.drive.Leads (fun folders folder => folders = [folder]) id none titles) ∧
        (s.drive.pageSize = some 1 → ∀ id, outcome = .ok (.string id) ↔
          s.drive.Leads (fun folders folder => folders.head? = some folder) id none titles) := by
  constructor
  · intro title parent quotable
    apply (only_calm calm quotable).mono
    rintro _ t ⟨same, rfl⟩
    exact ⟨same, decides_verdict title _, decides_firstPage_iff⟩
  · intro titles passable
    apply (follow_calm calm passable).mono
    rintro outcome t ⟨same, either, found⟩
    refine ⟨same, either, fun wide id => ?_, fun narrow id => ?_⟩
    · rw [found]
      exact passable.trail_eq_found_iff
        (fun _ _ quotable => Drive.lookup_eq_found_of_wide paged quotable wide) id
    · rw [found]
      exact passable.trail_eq_found_iff
        (fun _ _ quotable => Drive.lookup_eq_found_of_narrow paged quotable narrow) id

end

/-- A repository with a second folder for its actions, on a drive with pages of a size. -/
def crowdedSession (size : Nat) : Session :=
  let drive := smallDrive [{ smallFolder "others" ["repo"] with title := "actions" }]
  { smallSession [] [] .empty with drive := { drive with pageSize := some size } }

theorem lookups_by_first_page_crowdedSession :
    (crowdedSession 2).schedule.Calm ∧ (crowdedSession 2).drive.pageSize ≠ some 0 ∧
      (∀ value ∈ "actions" :: (some "repo").toList, Query.Quotable value) ∧
      ((only "actions" (within (some "repo"))).Ends (crowdedSession 2) fun outcome _ =>
        ∃ error, outcome = .error (.ofStorage error) ∧ error.kind = .ambiguous 2) ∧
      (crowdedSession 2).drive.Passable none ["repo", "databases"] ∧
      (follow ["repo", "databases"]).Ends (crowdedSession 2) fun outcome _ =>
        outcome = .ok (.string "databases") := by
  have calm : (crowdedSession 2).schedule.Calm := rfl
  have paged : (crowdedSession 2).drive.pageSize ≠ some 0 := by decide
  have quotable : ∀ value ∈ "actions" :: (some "repo").toList, Query.Quotable value := by
    decide +kernel
  have passable : (crowdedSession 2).drive.Passable none ["repo", "databases"] := by
    have root : (crowdedSession 2).drive.lookup "repo" none = .found "repo" := by decide +kernel
    refine ⟨by decide +kernel, fun id found => ⟨?_, fun _ _ => trivial⟩⟩
    obtain rfl := Lookup.found.inj (root.symm.trans found)
    decide +kernel
  obtain ⟨decided, followed⟩ := lookups_by_first_page calm paged
  refine ⟨calm, paged, quotable, ?_, passable, ?_⟩
  · apply (decided "actions" (some "repo") quotable).mono
    rintro outcome t ⟨_, _, whole⟩
    have two : ((crowdedSession 2).drive.folders "actions" (some "repo")).length = 2 := by
      decide +kernel
    have right := whole.mpr fun size paging =>
      Nat.le_of_eq (two.trans (Option.some.inj paging))
    exact (right.several 2).mpr ⟨Nat.le_of_eq two.symm, two.symm⟩
  · apply (followed _ passable).mono
    rintro outcome t ⟨_, _, alone, _⟩
    apply (alone (by decide) "databases").mpr
    exact ⟨smallFolder "repo" [], by decide +kernel,
      smallFolder "databases" ["repo"], by decide +kernel, rfl⟩

/-- With one folder a page, the first of two folders passes for the only one. -/
theorem only_picks_first_of_two :
    (crowdedSession 1).schedule.Calm ∧ (crowdedSession 1).drive.pageSize = some 1 ∧
      (∀ value ∈ "actions" :: (some "repo").toList, Query.Quotable value) ∧
      (only "actions" (within (some "repo"))).Ends (crowdedSession 1) fun outcome _ =>
        outcome = .ok (.string "actions") ∧
          ((crowdedSession 1).drive.folders "actions" (some "repo")).length = 2 ∧
          ¬ Decides ((crowdedSession 1).drive.folders "actions" (some "repo")) outcome := by
  have quotable : ∀ value ∈ "actions" :: (some "repo").toList, Query.Quotable value := by
    decide +kernel
  have two : ((crowdedSession 1).drive.folders "actions" (some "repo")).length = 2 := by
    decide +kernel
  have page : (crowdedSession 1).drive.firstPage
      ((crowdedSession 1).drive.folders "actions" (some "repo")) =
        [smallFolder "actions" ["repo"]] := by decide +kernel
  have calm : (crowdedSession 1).schedule.Calm := rfl
  refine ⟨calm, rfl, quotable, (only_calm calm quotable).mono ?_⟩
  rintro _ t ⟨_, rfl⟩
  rw [page]
  refine ⟨rfl, two, fun decided => ?_⟩
  obtain ⟨folder, alone, _⟩ := (decided.single _).mp rfl
  rw [alone] at two
  cases two

end Folders

end DriveDepot
