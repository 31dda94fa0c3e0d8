import DriveDepot.Folders
import DriveDepot.Proofs.Search
import DriveDepot.Proofs.Trail

namespace DriveDepot

/-- The title and the parent of the folder that a call asks for. -/
def Call.newFolder? : Call → Option (String × Json)
  | .drive (.insertFolder title parent) => some (title, parent)
  | _ => none

namespace Session

/-- The folders that were asked for, whether or not the drive made them. -/
def foldersAsked (s : Session) : List (String × Json) := s.calls.filterMap Call.newFolder?

/-- Two sessions that agree on all that operations read, and no folder was asked for in between. -/
structure Browsed (s t : Session) : Prop extends s.SameState t where
  foldersAsked : t.foldersAsked = s.foldersAsked

section
variable {s t u : Session}

theorem Browsed.refl (s : Session) : s.Browsed s := ⟨.refl s, rfl⟩

theorem Browsed.trans (h : s.Browsed t) (k : t.Browsed u) : s.Browsed u :=
  ⟨h.toSameState.trans k.toSameState, k.foldersAsked.trans h.foldersAsked⟩

theorem Browsed.journal (s : Session) (journal : List Record) :
    s.Browsed { s with journal := journal } := ⟨.journal s journal, rfl⟩

theorem SameAround.spares (h : s.SameAround t) {call : CallKind}
    (spared : s.schedule.Spares call) : t.schedule.Spares call := by
  rw [Schedule.Spares, h.faults]
  exact spared

theorem Asked.foldersAsked {request : Request} (h : s.Asked request t) :
    t.foldersAsked = s.foldersAsked ++ (Call.newFolder? (.drive request)).toList :=
  h.filterMap_calls Call.newFolder?

end

end Session

theorem Schedule.Spares.not_raisesNext {schedule : Schedule} {call : CallKind}
    (spared : schedule.Spares call) (failure : Failure) : ¬ schedule.RaisesNext call failure := by
  rintro ⟨fault, met, _⟩
  cases spared.next?.symm.trans met

namespace Folders

open Operation

/-- A parent as it is given to a search. -/
def within : Option String → Json
  | some id => .string id
  | none => .null

theorem optionalText_within (parent : Option String) :
    (within parent).optionalText = .ok parent := by cases parent <;> rfl

/-- The first page of a listing of folders. -/
def listed (drive : Drive) (title : String) (parent : Option String) : List StoredFile :=
  drive.firstPage (drive.folders title parent)

inductive Matched (title : String) (parent : Option String) (s : Session) :
    Except Failure Json → Prop
  | listed (quotable : ∀ c ∈ Query.ofFolders title parent, c.Quotable) :
      Matched title parent s (.ok (.array ((listed s.drive title parent).map (·.listed))))
  | refused (unquotable : ¬ ∀ c ∈ Query.ofFolders title parent, c.Quotable) {e : ProviderError} :
      Matched title parent s (.error (.ofProvider e))
  | raised {failure : Failure} (raises : s.schedule.RaisesNext .list failure) :
      Matched title parent s (.error failure)

theorem browsed_of_asked {s t : Session} {query : String} (asked : s.Asked (.listFolders query) t)
    (drive : t.drive = s.drive) : s.Browsed t :=
  ⟨⟨asked.toSameAround, drive⟩, asked.foldersAsked.trans (List.append_nil _)⟩

theorem matching_ends {s : Session} (raising : s.schedule.Raising) (title : String)
    (parent : Option String) :
    (matching title (within parent)).Ends s fun outcome t =>
      s.Browsed t ∧ Matched title parent s outcome := by
  have read := Query.ofText?_ofFolders title parent
  rw [matching, optionalText_within, ofMishap, ofExcept_ok, pure_bind]
  by_cases quotable : ∀ c ∈ Query.ofFolders title parent, c.Quotable
  · rw [if_pos quotable] at read
    have answer : s.drive.answer (.listFolders (Query.text (Query.ofFolders title parent))) =
        .ok (Drive.listing (listed s.drive title parent)
          (s.drive.page (s.drive.folders title parent) .null).2, s.drive) := by
      rw [Drive.answer, Search.list_of_readable _ read]
      rfl
    refine (request_granted answer).bind ?_ ?_
    · rintro value t ⟨asked, granted⟩
      generalize drive : t.drive = after at granted
      cases granted with
      | done => exact ends_pure.mpr ⟨browsed_of_asked asked drive, .listed quotable⟩
      | replaced met outcome => exact absurd outcome (raising.not_answers met)
    · rintro failure t ⟨asked, granted⟩
      generalize drive : t.drive = after at granted
      cases granted with
      | raised raises | raisedLate raises => exact ⟨browsed_of_asked asked drive, .raised raises⟩
  · rw [if_neg quotable] at read
    have answer : s.drive.answer (.listFolders (Query.text (Query.ofFolders title parent))) =
        .error (.http 400 "Invalid query") := by
      rw [Drive.answer, Search.list_of_unreadable _ read]
      rfl
    refine (request_denied answer).bind ?_ ?_
    · rintro value t ⟨asked, drive, denied⟩
      cases denied with
      | replaced met outcome => exact absurd outcome (raising.not_answers met)
    · rintro failure t ⟨asked, drive, denied⟩
      refine ⟨browsed_of_asked asked drive, ?_⟩
      cases denied with
      | refused => exact .refused quotable
      | raised raises => exact .raised raises

theorem firstId_listed (folder : StoredFile) (rest : List Json) :
    firstId (.array (folder.listed :: rest)) = .ok (.string folder.id) := by
  cases h : folder.downloadUrl <;>
    simp [firstId, Json.first, idOf, Json.required, StoredFile.listed, bind, Except.bind]

/-- Reading a listing is a matter of how many folders it tells. -/
theorem read_listing (files : List StoredFile) (missing : Operation α)
    (several : Nat → Operation α) (one : Json → Operation α) :
    (if (Json.array (files.map (·.listed))).isNothing then missing
      else do
        let count ← ofMishap (Json.array (files.map (·.listed))).count
        if count > 1 then several count
        else one (← ofMishap (firstId (.array (files.map (·.listed)))))) =
      match files with
      | [] => missing
      | [folder] => one (.string folder.id)
      | files => several files.length := by
  have count (items : List Json) : (Json.array items).count = .ok items.length := rfl
  rcases files with _ | ⟨folder, _ | ⟨another, more⟩⟩
  · rfl
  · simp only [List.map_cons, List.map_nil, count, ofMishap, ofExcept_ok, pure_bind,
      firstId_listed]
    rfl
  · have several : more.length + 1 + 1 > 1 := by omega
    simp only [List.map_cons, count, List.length_cons, List.length_map, ofMishap, ofExcept_ok,
      pure_bind, several, ↓reduceIte]
    rfl

theorem lookup_of_quotable (drive : Drive) {title : String} {parent : Option String}
    (quotable : ∀ c ∈ Query.ofFolders title parent, c.Quotable) :
    drive.lookup title parent = .ofPage (listed drive title parent) := if_pos quotable

theorem lookup_of_unquotable (drive : Drive) {title : String} {parent : Option String}
    (unquotable : ¬ ∀ c ∈ Query.ofFolders title parent, c.Quotable) :
    drive.lookup title parent = .refused := if_neg unquotable

structure Followed (parent : Option String) (titles : List String) (s : Session)
    (outcome : Except Failure Json) : Prop where
  sound : ∀ value, outcome = .ok value →
    value = .null ∨ ∃ id, value = .string id ∧ s.drive.trail parent titles = .found id
  found : s.schedule.Spares .list → ∀ id, s.drive.trail parent titles = .found id →
    outcome = .ok (.string id)
  read : s.schedule.Spares .list → s.drive.trail parent titles ≠ .refused →
    ∃ value, outcome = .ok value

section
variable {s : Session} {parent : Option String} {titles : List String}

theorem Followed.null (ended : ∀ id, s.drive.trail parent titles ≠ .found id) :
    Followed parent titles s (.ok .null) :=
  ⟨fun _ same => .inl (Except.ok.inj same).symm, fun _ id found => absurd found (ended id),
    fun _ _ => ⟨.null, rfl⟩⟩

/-- Where the first title leads to a folder, the rest is followed from there. -/
theorem Followed.onward {t : Session} {title id : String} {rest : List String}
    {outcome : Except Failure Json} (first : s.drive.lookup title parent = .found id)
    (browsed : s.Browsed t) (h : Followed (some id) rest t outcome) :
    Followed parent (title :: rest) s outcome := by
  have onward : s.drive.trail parent (title :: rest) = t.drive.trail (some id) rest := by
    rw [Drive.trail_cons, first, browsed.drive]
  constructor
  · rw [onward]
    exact h.sound
  · rw [onward]
    exact h.found ∘ browsed.spares
  · rw [onward]
    exact h.read ∘ browsed.spares

theorem Followed.failed {failure : Failure}
    (refused : s.schedule.Spares .list → s.drive.trail parent titles = .refused) :
    Followed parent titles s (.error failure) := by
  refine ⟨nofun, fun spared id found => ?_, fun spared read => absurd (refused spared) read⟩
  cases (refused spared).symm.trans found

end

theorem followFrom_ends {s : Session} (raising : s.schedule.Raising) (parent : Option String)
    (titles : List String) :
    (followFrom (within parent) titles).Ends s fun outcome t =>
      s.Browsed t ∧ Followed parent titles s outcome := by
  induction titles generalizing s parent with
  | nil =>
    refine ends_pure.mpr ⟨.refl s, ?_⟩
    cases parent with
    | none => exact .null fun _ => nofun
    | some id =>
      refine ⟨fun _ same => .inr ⟨id, (Except.ok.inj same).symm, rfl⟩, fun _ other found => ?_,
        fun _ _ => ⟨.string id, rfl⟩⟩
      rw [Lookup.found.inj found]
      rfl
  | cons title rest ih =>
    rw [followFrom]
    refine (matching_ends raising title parent).bind ?_ ?_
    · rintro value t ⟨browsed, matched⟩
      cases matched with
      | listed quotable =>
        have first := lookup_of_quotable s.drive quotable
        rw [read_listing]
        rcases page : listed s.drive title parent with _ | ⟨folder, _ | ⟨another, more⟩⟩ <;>
          rw [page] at first
        · refine Ends.log_bind fun journal => ends_pure.mpr ⟨browsed.trans (.journal t journal), ?_⟩
          exact .null (Drive.trail_cons_ne_found fun middle => by simp [first, Lookup.ofPage])
        · apply (ih (browsed.raising raising) (some folder.id)).mono
          rintro outcome u ⟨browsed', followed⟩
          exact ⟨browsed.trans browsed', followed.onward first browsed⟩
        · refine Ends.log_bind fun journal => ends_pure.mpr ⟨browsed.trans (.journal t journal), ?_⟩
          exact .null (Drive.trail_cons_ne_found fun middle => by simp [first, Lookup.ofPage])
    · rintro failure t ⟨browsed, matched⟩
      refine ⟨browsed, .failed fun spared => ?_⟩
      cases matched with
      | refused unquotable =>
        rw [Drive.trail_cons, lookup_of_unquotable s.drive unquotable]
      | raised raises => exact absurd raises (spared.not_raisesNext failure)

/-- What the folders say that a listing tells of a title. -/
def verdict (title : String) : List StoredFile → Except Failure Json
  | [] => .error (.ofStorage (.folderMissing title))
  | [folder] => .ok (.string folder.id)
  | folders => .error (.ofStorage (.severalFolders folders.length title))

/-- What looking for the only folder of a title comes to. A fault can hide a folder, and it cannot
show one that is not there. -/
inductive Found (title : String) (parent : Option String) (s : Session) :
    Except Failure Json → Prop
  | single {id : String} (found : s.drive.lookup title parent = .found id) :
      Found title parent s (.ok (.string id))
  | failed {failure : Failure} (ended : s.schedule.Spares .list →
      (∀ id, s.drive.lookup title parent ≠ .found id) ∧ failure.isStorage = true)
      (told : s.schedule.Spares .list → s.drive.lookup title parent ≠ .refused →
        verdict title (listed s.drive title parent) = .error failure) :
      Found title parent s (.error failure)

theorem only_ends {s : Session} (raising : s.schedule.Raising) (title : String)
    (parent : Option String) :
    (only title (within parent)).Ends s fun outcome t =>
      s.Browsed t ∧ Found title parent s outcome := by
  rw [only]
  refine Ends.bind (P := fun outcome t => s.Browsed t ∧ match outcome with
    | .ok value => Matched title parent s (.ok value)
    | .error failure => s.schedule.Spares .list →
        s.drive.lookup title parent = .refused ∧ failure.isStorage = true) ?_ ?_ ?_
  · refine (matching_ends raising title parent).handleIf ?_ ?_ ?_
    · exact fun _ _ h => h
    · rintro failure t provider ⟨browsed, matched⟩
      refine Ends.log_bind fun journal =>
        ends_throw.mpr ⟨browsed.trans (.journal t journal), fun spared => ⟨?_, ?_⟩⟩
      rotate_left
      · rw [Failure.isStorage_wrap, Failure.isRaised_of_isProvider provider]
      cases matched with
      | refused unquotable => exact lookup_of_unquotable s.drive unquotable
      | raised raises => exact absurd raises (spared.not_raisesNext failure)
    · rintro failure t other ⟨browsed, matched⟩
      refine ⟨browsed, fun spared => ?_⟩
      cases matched with
      | refused => cases other
      | raised raises => exact absurd raises (spared.not_raisesNext failure)
  · rintro value t ⟨browsed, matched⟩
    cases matched with
    | listed quotable =>
      have first := lookup_of_quotable s.drive quotable
      rw [← bind_pure (ofMishap (firstId _)), read_listing]
      rcases page : listed s.drive title parent with _ | ⟨folder, _ | ⟨another, more⟩⟩ <;>
        rw [page] at first
      · refine ends_throw.mpr ⟨browsed, .failed (fun _ => ⟨?_, rfl⟩) fun _ _ => by rw [page]; rfl⟩
        rw [first]
        exact nofun
      · exact ends_pure.mpr ⟨browsed, .single first⟩
      · refine ends_throw.mpr ⟨browsed, .failed (fun _ => ⟨?_, rfl⟩) fun _ _ => by rw [page]; rfl⟩
        rw [first]
        exact nofun
  · rintro failure t ⟨browsed, refused⟩
    refine ⟨browsed, .failed (fun spared => ?_) fun spared read => ?_⟩
    · obtain ⟨first, storage⟩ := refused spared
      exact ⟨by rw [first]; exact nofun, storage⟩
    · exact absurd (refused spared).1 read

end Folders

end DriveDepot
