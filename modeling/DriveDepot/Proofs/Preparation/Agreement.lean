import DriveDepot.Proofs.Preparation
import DriveDepot.Proofs.Tidy

namespace DriveDepot

namespace Drive

/-- Ids that begin differently are not those that the drive will give. -/
theorem UnusedIds.of_others {drive : Drive}
    (others : ∀ file ∈ drive.files, ∀ id ∈ file.id :: file.parents,
      id.toList.take 3 ≠ "new".toList) : drive.UnusedIds := by
  intro file held n _
  refine ⟨ne_new (others file held _ List.mem_cons_self) _, fun inside => ?_⟩
  exact ne_new (others file held _ (List.mem_cons_of_mem _ inside)) (Text.Decimal.text n) rfl

/-- Folders of different titles that were made one beside the other are each found as such. -/
theorem slotIds_siblings {drive : Drive} {before : List StoredFile} {created : Nat}
    {root : String} {slots : List Slot}
    (files : drive.files = before ++ siblings created root (slots.map Slot.title))
    (distinct : (slots.map Slot.title).Nodup) (quotable : Query.Quotable root)
    (paged : drive.pageSize ≠ some 0)
    (apart : ∀ file ∈ before, ∀ slot ∈ slots, ¬ file.IsSought slot.title (some root)) :
    drive.slotIds root slots = some (Slot.issued created slots) := by
  induction slots generalizing before created with
  | nil => rfl
  | cons slot rest ih =>
    let folder := newFolder (issuedId (created + 1)) slot.title (some root)
    rw [List.map_cons, List.nodup_cons] at distinct
    rw [List.map_cons, siblings] at files
    have found : drive.lookup slot.title (some root) = .found (issuedId (created + 1)) := by
      refine lookup_eq_found.mpr ⟨?_, folder, _, ?_, rfl, paged, .inr rfl⟩
      · refine quotable_ofFolders.mpr ⟨?_, ?_⟩
        · cases slot <;> decide
        · rintro _ ⟨⟩
          exact quotable
      · refine folders_eq_singleton files (isSought_newFolder.mpr ⟨rfl, fun _ same => same⟩) ?_
        intro other member sought
        obtain old | new := List.mem_append.mp member
        · exact apart other old slot List.mem_cons_self sought
        · have titled := (StoredFile.isSought_iff.mp sought).2.2.1
          exact distinct.1 (titled ▸ (mem_siblings new).2)
    have others : drive.slotIds root rest = some (Slot.issued (created + 1) rest) := by
      rw [← List.singleton_append, ← List.append_assoc] at files
      refine ih files distinct.2 ?_
      intro file member other later sought
      obtain old | new := List.mem_append.mp member
      · exact apart file old other (List.mem_cons_of_mem _ later) sought
      · obtain rfl := List.mem_singleton.mp new
        have titled := (isSought_newFolder.mp sought).1
        exact distinct.1 (titled ▸ List.mem_map_of_mem later)
    rw [slotIds_cons_of_found found, others]
    rfl

/-- No folder of a chain lies in its last one. -/
theorem not_mem_parents_of_mem_chain {created : Nat} {first : String} {rest : List String}
    {file : StoredFile} (member : file ∈ chain created none (first :: rest)) :
    issuedId (created + (first :: rest).length) ∉ file.parents := by
  obtain rfl | later := List.mem_cons.mp member
  · exact List.not_mem_nil
  · obtain ⟨n, _, most, parents⟩ := parents_of_mem_chain later
    rw [parents, List.mem_singleton]
    intro same
    have := issuedId_injective same
    rw [List.length_cons] at this
    omega

end Drive

namespace Repository

open Operation

/-- A drive without faults, which tells of its account, and on which no folder bears the first title
of a root path, and a layout of that path. The first title is neither one of the others nor that of
a category folder. -/
structure Unclaimed (path first : String) (rest : List String) (s : Session) : Prop where
  layout : s.layout = .fresh path
  segments : FolderPath.segments path = first :: rest
  quotable : ∀ title ∈ first :: rest, Query.Quotable title
  apart : first ∉ rest ∧ first ∉ Slot.titles
  absent : ∀ file ∈ s.drive.files, file.trashed = false → file.isFolder = true →
    file.title ≠ first
  unused : s.drive.UnusedIds
  calm : s.schedule.Calm
  paged : s.drive.pageSize ≠ some 0
  account : ∃ fields, s.drive.account = .object fields

section
variable {s : Session} {path first : String} {rest : List String}

theorem Unclaimed.folders (h : Unclaimed path first rest s) : s.drive.folders first none = [] := by
  rw [List.eq_nil_iff_forall_not_mem]
  intro file member
  obtain ⟨held, sought⟩ := Drive.mem_folders.mp member
  obtain ⟨kept, mimeType, titled, _⟩ := StoredFile.isSought_iff.mp sought
  exact h.absent file held kept (by simp [StoredFile.isFolder, mimeType]) titled

theorem Unclaimed.ended (h : Unclaimed path first rest s) (id : String) :
    s.drive.trail none (first :: rest) ≠ .found id := by
  intro leads
  obtain ⟨middle, found, _⟩ := Drive.trail_cons_eq_found.mp leads
  obtain ⟨folder, member, _⟩ := Drive.exists_of_lookup found
  rw [h.folders] at member
  cases member

/-- The layout that a preparation records. -/
def preparedLayout (path : String) (created : Nat) : Layout :=
  provided ((Layout.fresh path).rooted (Drive.issuedId created)) created

/-- All folders of that layout are there. -/
theorem holds_provision (drive : Drive) (path first : String) (rest : List String)
    (place : Option Slot) :
    (drive.grown (Drive.provision drive.created (first :: rest))).holds
      ((preparedLayout path (drive.created + (first :: rest).length)).idAt place) = true := by
  cases place with
  | none =>
    obtain ⟨title, inside, member⟩ := Drive.exists_mem_chain drive.created none first rest
    exact Drive.holds_grown_of_mem (List.mem_append_left _ member)
  | some slot =>
    let created := drive.created + (first :: rest).length
    have made (n : Nat) (member : Drive.newFolder (Drive.issuedId n) slot.title
          (some (Drive.issuedId created)) ∈
            Drive.siblings created (Drive.issuedId created) Slot.titles) :
        (drive.grown (Drive.provision drive.created (first :: rest))).holds
          (.string (Drive.issuedId n)) = true :=
      Drive.holds_grown_of_mem (List.mem_append_right _ member)
    cases slot with
    | content => exact made _ (.head _)
    | metadata => exact made _ (.tail _ (.head _))
    | actions => exact made _ (.tail _ (.tail _ (.head _)))
    | transactions => exact made _ (.tail _ (.tail _ (.tail _ (.head _))))
    | temporary => exact made _ (.tail _ (.tail _ (.tail _ (.tail _ (.head _)))))

/-- A client finds on the drive what the preparation has recorded. -/
theorem Unclaimed.attach (h : Unclaimed path first rest s) :
    (s.drive.grown (Drive.provision s.drive.created (first :: rest))).attach (.fresh path) =
      preparedLayout path (s.drive.created + (first :: rest).length) := by
  let created := s.drive.created + (first :: rest).length
  have leads := Drive.trail_provision h.unused h.quotable h.folders h.paged (.inr h.apart)
  have slots : (s.drive.grown (Drive.provision s.drive.created (first :: rest))).slotIds
      (Drive.issuedId created) Slot.all = some (Slot.issued created Slot.all) := by
    refine Drive.slotIds_siblings (List.append_assoc ..).symm (by decide)
      (Drive.quotable_issuedId created) h.paged ?_
    intro file member slot _ sought
    have inside := (StoredFile.isSought_iff.mp sought).2.2.2 _ rfl
    obtain old | new := List.mem_append.mp member
    · exact (h.unused file old created (by simp [created])).2 inside
    · exact Drive.not_mem_parents_of_mem_chain new inside
  have path_segments : (Layout.fresh path).segments = first :: rest := h.segments
  rw [Drive.attach, path_segments, leads]
  change Drive.discover _ (Drive.issuedId created) _ = _
  rw [Drive.discover, slots]
  rfl

/-- A root path whose first title nobody has used is prepared, and whoever comes next with this
root path finds the target and has the layout of the one who prepared it. -/
theorem prepare_agreement (unclaimed : Unclaimed path first rest s) :
    (prepare true).Ends s fun outcome t => outcome = .ok () ∧ t.layout.complete = true ∧
      (∀ place, t.drive.holds (t.layout.idAt place) = true) ∧
        ∀ u : Session, u.drive = t.drive → u.schedule.Calm → u.layout = .fresh path →
          targetExists.Ends u fun answer v => answer = .ok true ∧ v.layout = t.layout := by
  have segments : s.layout.segments = first :: rest := by
    rw [unclaimed.layout]
    exact unclaimed.segments
  apply (prepare_calm_of_ended unclaimed.calm segments unclaimed.ended).mono
  rintro outcome t ⟨succeeds, provided⟩
  have succeeded := succeeds unclaimed.account
  have provided := provided succeeded
  rw [unclaimed.layout] at provided
  refine ⟨succeeded, by rw [provided.layout]; rfl, ?_, ?_⟩
  · intro place
    rw [provided.layout, provided.drive]
    exact holds_provision s.drive path first rest place
  · intro u drive calm fresh
    have leads := Drive.trail_provision unclaimed.unused unclaimed.quotable unclaimed.folders
      unclaimed.paged (.inr unclaimed.apart)
    apply (targetExists_calm calm).mono
    rintro answer v ⟨layout, found⟩
    have path_segments : (Layout.fresh path).segments = first :: rest := unclaimed.segments
    rw [drive, provided.drive, fresh] at layout found
    rw [unclaimed.attach] at layout
    rw [path_segments] at found
    refine ⟨found.mpr ⟨_, leads⟩, ?_⟩
    rw [layout, provided.layout]
    rfl

end

/-- A drive that lists one folder at a time and holds another one. -/
def blankSession : Session :=
  ⟨⟨[Drive.newFolder "1" "other" none], 0, some 1, 2, .object []⟩, .calm, .empty, .fresh "A/B",
    ⟨"", none⟩, none, [], [], 0, ""⟩

theorem unclaimed_blankSession : Unclaimed "A/B" "A" ["B"] blankSession where
  layout := rfl
  segments := by decide +kernel
  quotable := by decide
  apart := by decide
  absent := by decide
  unused := .of_others (by decide +kernel)
  calm := rfl
  paged := by decide
  account := ⟨[], rfl⟩

theorem prepare_agreement_blankSession :
    Unclaimed "A/B" "A" ["B"] blankSession ∧
      (prepare true).Ends blankSession fun outcome t => outcome = .ok () ∧
        t.layout.complete = true ∧ (∀ place, t.drive.holds (t.layout.idAt place) = true) ∧
          ∀ u : Session, u.drive = t.drive → u.schedule.Calm → u.layout = .fresh "A/B" →
            targetExists.Ends u fun answer v => answer = .ok true ∧ v.layout = t.layout :=
  ⟨unclaimed_blankSession, prepare_agreement unclaimed_blankSession⟩

end Repository

end DriveDepot
