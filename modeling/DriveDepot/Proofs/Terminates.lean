import DriveDepot.Proofs.FailsWith
import DriveDepot.Repository.Probe

namespace DriveDepot

namespace Operation

theorem terminates_ofMishap (result : Except Mishap α) : (ofMishap result).Terminates :=
  failsWith_ofExcept Failure.ofMishap (fun _ => nofun) result

theorem terminates_storageError (error : StorageError) :
    (storageError error : Operation α).Terminates := failsWith_throw nofun

theorem terminates_answer (request : Request) : (answer request).Terminates := by
  refine failsWith_get.bind fun s => ?_
  refine (failsWith_ofExcept Failure.ofProvider (fun _ => nofun) _).bind fun _ => ?_
  exact (failsWith_modify _).bind fun _ => failsWith_pure _

theorem terminates_request (request : Request) : (Operation.request request).Terminates :=
  failsWith_perform (fun _ => nofun) (terminates_answer request)

/-- The report of a failure, where that was one. -/
theorem terminates_onProviderError_report {operation : Operation α} (first : operation.Terminates)
    (level : Level) (message : Failure → String) (error : StorageError) :
    (operation.onProviderError fun failure => do
      log level (message failure)
      throw (failure.wrap error)).Terminates := by
  intro s
  refine (first s).handleIf (fun _ _ _ => by rintro _ ⟨⟩) ?_ fun _ _ _ h => h
  intro failure t provider _
  refine Ends.log_bind fun _ => ends_throw.mpr ?_
  rintro _ ⟨⟩
  exact Failure.wrap_ne_endless (by rintro rfl; cases provider) error

/-- Run from `s`, the operation does not fail. -/
def Succeeds (operation : Operation α) (s : Session) : Prop :=
  operation.Ends s fun outcome _ => ∃ a, outcome = .ok a

variable {s : Session}

theorem succeeds_log (level : Level) (message : String) : (log level message).Succeeds s :=
  Ends.log fun _ => ⟨(), rfl⟩

theorem succeeds_print (text : String) : (print text).Succeeds s := ⟨(), rfl⟩

theorem succeeds_layout : layout.Succeeds s := ⟨s.layout, rfl⟩

theorem Succeeds.bind {operation : Operation α} (first : operation.Succeeds s)
    {next : α → Operation β} (rest : ∀ a t, (next a).Succeeds t) :
    (operation >>= next).Succeeds s := by
  refine Ends.bind first (fun a t _ => rest a t) ?_
  rintro _ _ ⟨_, ⟨⟩⟩

theorem Succeeds.forM {list : List α} {f : α → Operation PUnit} (each : ∀ a t, (f a).Succeeds t) :
    (list.forM f).Succeeds s := by
  induction list generalizing s with
  | nil => exact ⟨PUnit.unit, rfl⟩
  | cons a rest ih => exact (each a s).bind fun _ _ => ih

theorem Succeeds.terminates {operation : Operation α} (succeeds : ∀ s, operation.Succeeds s) :
    operation.Terminates := by
  intro s
  obtain ⟨a, told⟩ := succeeds s
  rw [Ends, told]
  rintro _ ⟨⟩

end Operation

open Operation

namespace Folders

theorem terminates_make (title : String) (parent : Json) : (make title parent).Terminates :=
  (terminates_request _).bind fun _ => (terminates_ofMishap _).bind fun _ =>
    (failsWith_log _ _).bind fun _ => failsWith_pure _

theorem terminates_matching (title : String) (parent : Json) :
    (matching title parent).Terminates :=
  (terminates_ofMishap _).bind fun _ => (terminates_request _).bind fun _ =>
    (terminates_ofMishap _).bind fun _ => failsWith_pure _

theorem terminates_only (title : String) (parent : Json) : (only title parent).Terminates := by
  refine (terminates_onProviderError_report (terminates_matching title parent) _ _ _).bind ?_
  intro folders
  refine (terminates_storageError _).ite ((terminates_ofMishap _).bind fun count => ?_)
  exact (terminates_storageError _).ite (terminates_ofMishap _)

theorem terminates_followFrom (parent : Json) (titles : List String) :
    (followFrom parent titles).Terminates := by
  induction titles generalizing parent with
  | nil => exact failsWith_pure parent
  | cons title rest ih =>
    refine (terminates_matching title parent).bind fun folders => FailsWith.ite ?_ ?_
    · exact (failsWith_log _ _).bind fun _ => failsWith_pure _
    · refine (terminates_ofMishap _).bind fun count => FailsWith.ite ?_ ?_
      · exact (failsWith_log _ _).bind fun _ => failsWith_pure _
      · exact (terminates_ofMishap _).bind fun id => ih id

end Folders

namespace Repository

theorem terminates_attach (rootId : Json) : (attach rootId).Terminates := by
  have discovers : discover.Terminates :=
    failsWith_layout.bind fun _ =>
      (FailsWith.mapM fun _ => (Folders.terminates_only _ _).bind fun _ => failsWith_pure _).bind
        fun _ => failsWith_layout.bind fun _ => failsWith_modify _
  refine failsWith_layout.bind fun _ => FailsWith.ite ?_ (failsWith_pure ())
  refine failsWith_layout.bind fun _ => (failsWith_modify _).bind fun _ => ?_
  exact discovers.handleIf fun _ => failsWith_log _ _

/-- A probe of what comes to an end gives an answer. -/
theorem succeeds_probe {operation : Operation Bool} {onFailure : Failure → Operation Unit}
    (terminates : operation.Terminates) (told : ∀ failure t, (onFailure failure).Succeeds t)
    (s : Session) : (probe operation onFailure).Succeeds s := by
  refine (terminates s).onAnyError (fun answer _ _ => ⟨answer, rfl⟩) ?_ ?_
  · exact fun failure t _ => (told failure t).bind fun _ _ => ⟨false, rfl⟩
  · exact fun t h => absurd rfl (h _ rfl)

theorem succeeds_targetExists (s : Session) : targetExists.Succeeds s := by
  refine succeeds_probe ?_ (fun _ _ => succeeds_log _ _) s
  refine failsWith_layout.bind fun _ => (Folders.terminates_followFrom _ _).bind fun rootId => ?_
  refine FailsWith.ite ((failsWith_log _ _).bind fun _ => failsWith_pure _) ?_
  exact (terminates_attach rootId).bind fun _ => (failsWith_log _ _).bind fun _ => failsWith_pure _

theorem terminates_delete (id : Json) : (delete id).Terminates :=
  (terminates_request _).bind fun _ => failsWith_pure _

theorem succeeds_targetCanWrite (s : Session) : targetCanWrite.Succeeds s := by
  refine succeeds_probe ?_ (fun _ _ => succeeds_log _ _) s
  refine (Succeeds.terminates succeeds_targetExists).bind fun found => FailsWith.ite ?_ ?_
  · exact (failsWith_log _ _).bind fun _ => failsWith_pure _
  · refine failsWith_disk.bind fun _ => (failsWith_modify _).bind fun _ => ?_
    refine FailsWith.bind (FailsWith.ensuring ?_ ?_) fun created => ?_
    · exact failsWith_layout.bind fun _ => failsWith_disk.bind fun _ => terminates_request _
    · exact failsWith_disk.bind fun _ => failsWith_modify _
    · exact (terminates_ofMishap _).bind fun _ => (terminates_delete _).bind fun _ =>
        (failsWith_log _ _).bind fun _ => failsWith_pure _

theorem succeeds_targetCanCreate (s : Session) : targetCanCreate.Succeeds s := by
  refine succeeds_probe ?_ (fun _ _ => succeeds_log _ _) s
  refine (Succeeds.terminates succeeds_targetExists).bind fun found => ?_
  refine (failsWith_pure _).ite (failsWith_layout.bind fun _ => ?_)
  refine (Folders.terminates_make _ _).bind fun _ => (terminates_delete _).bind fun _ => ?_
  exact failsWith_layout.bind fun _ => (failsWith_log _ _).bind fun _ => failsWith_pure _

/-- The search for the file that marks the repository. -/
def markerSearch (layout : Layout) : Operation (List FoundFile) :=
  filesIn (layout.folderFor RemoteFile.marker.category) (some RemoteFile.marker.name)

/-- Whether there is a marker is told unless the search for it goes on forever. -/
theorem markerExists_ends (s : Session) : markerExists.Ends s fun outcome _ =>
    (∃ answer, outcome = .ok answer) ∧ (runOn (markerSearch s.layout) s).1 ≠ .error .endless ∨
      outcome = .error .endless ∧ (runOn (markerSearch s.layout) s).1 = .error .endless := by
  have told (level : Level) (message : String) (answer : Bool) (t : Session) :
      (log level message >>= fun _ => pure answer : Operation Bool).Succeeds t :=
    Ends.log_bind fun _ => ⟨answer, rfl⟩
  rw [markerExists, folderFor, bind_assoc, ends_layout_bind, pure_bind]
  refine Ends.handleIf (P := fun outcome _ =>
    outcome = .error .endless ↔ (runOn (markerSearch s.layout) s).1 = .error .endless) ?_ ?_ ?_ ?_
  · refine (Ends.run (markerSearch s.layout) s).bind ?_ ?_
    · intro found t run
      refine Ends.mono (P := fun outcome _ => ∃ answer, outcome = .ok answer) ?_ ?_
      · rcases found with _ | ⟨_, _ | _⟩ <;> exact told _ _ _ t
      · rintro _ _ ⟨_, rfl⟩
        simp [run]
    · rintro failure t run
      simp [run]
  · exact fun answer t ended => .inl ⟨⟨answer, rfl⟩, by simpa using ended⟩
  · rintro failure t raised ended
    apply (told _ _ false t).mono
    rintro _ _ ⟨_, rfl⟩
    refine .inl ⟨⟨_, rfl⟩, fun endless => ?_⟩
    cases ended.mpr endless
    cases raised
  · rintro failure t unraised ended
    obtain rfl := Failure.eq_endless_of_not_isRaised unraised
    exact .inr ⟨rfl, ended.mp rfl⟩

theorem succeeds_markerExists {s : Session}
    (ended : (runOn (markerSearch s.layout) s).1 ≠ .error .endless) : markerExists.Succeeds s :=
  (markerExists_ends s).mono fun _ _ told => (told.resolve_right fun h => ended h.2).1

theorem terminates_openClient (client : Client) (refreshToken : String) :
    (openClient client refreshToken).Terminates := by
  have opened (call : Call) : (perform call (pure .null)).Terminates :=
    failsWith_perform (fun _ => nofun) (failsWith_pure _)
  have opens := (opened (.credentials client refreshToken)).bind fun _ =>
    (opened .build).bind fun _ => failsWith_pure ()
  intro s
  refine (opens s).onAnyError (fun _ _ _ => by rintro _ ⟨⟩) ?_ fun _ h => h
  intro failure t h
  refine Ends.log_bind fun _ => ends_throw.mpr ?_
  rintro _ ⟨⟩
  exact h failure rfl

end Repository

end DriveDepot
