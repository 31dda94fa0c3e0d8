import DriveDepot.Proofs.Calls

namespace DriveDepot.Operation

/-- Wherever the operation is run, each failure that it ends with satisfies `p`. -/
def FailsWith (p : Failure → Prop) (operation : Operation α) : Prop :=
  ∀ s, operation.Ends s fun outcome _ => ∀ failure, outcome = .error failure → p failure

/-- No failure of the drive or of the file system is let out as such. -/
abbrev Guarded (operation : Operation α) : Prop :=
  operation.FailsWith fun failure => failure.isProvider = false

/-- The operation always comes to an end. -/
abbrev Terminates (operation : Operation α) : Prop := operation.FailsWith (· ≠ .endless)

variable {p : Failure → Prop}

theorem failsWith_pure (a : α) : (pure a : Operation α).FailsWith p :=
  fun _ => ends_pure.mpr (by simp)

theorem failsWith_throw {failure : Failure} (h : p failure) :
    (throw failure : Operation α).FailsWith p := by
  intro s
  refine ends_throw.mpr ?_
  rintro _ ⟨⟩
  exact h

theorem failsWith_ofExcept (failure : ε → Failure) (h : ∀ e, p (failure e)) (result : Except ε α) :
    (ofExcept failure result).FailsWith p := by
  cases result with
  | ok a => exact failsWith_pure a
  | error e => exact failsWith_throw (h e)

theorem failsWith_modify (f : Session → Session) : (modify f : Operation Unit).FailsWith p :=
  fun _ => by rintro _ ⟨⟩

theorem failsWith_log (level : Level) (message : String) : (log level message).FailsWith p :=
  failsWith_modify _

theorem failsWith_print (text : String) : (print text).FailsWith p := failsWith_modify _

theorem failsWith_get : (get : Operation Session).FailsWith p := fun _ => by rintro _ ⟨⟩

theorem failsWith_layout : layout.FailsWith p := fun _ => by rintro _ ⟨⟩

theorem failsWith_disk : disk.FailsWith p := fun _ => by rintro _ ⟨⟩

section
variable {operation other : Operation α}

theorem FailsWith.bind (first : operation.FailsWith p) {next : α → Operation β}
    (rest : ∀ a, (next a).FailsWith p) : (operation >>= next).FailsWith p := by
  intro s
  refine (first s).bind (fun a t _ => rest a t) ?_
  rintro failure t held _ ⟨⟩
  exact held failure rfl

theorem FailsWith.ite {c : Prop} [Decidable c] (first : operation.FailsWith p)
    (second : other.FailsWith p) : (if c then operation else other).FailsWith p := by
  split
  · exact first
  · exact second

/-- What the handler does not take passes through. -/
theorem failsWith_handleIf {handles : Failure → Bool} {handler : Failure → Operation α}
    (passed : operation.FailsWith fun failure => handles failure = false → p failure)
    (handled : ∀ failure, (handler failure).FailsWith p) :
    (operation.handleIf handles handler).FailsWith p := by
  intro s
  refine (passed s).handleIf ?_ (fun failure t _ _ => handled failure t) ?_
  · rintro a t _ _ ⟨⟩
  · rintro failure t unhandled h _ ⟨⟩
    exact h failure rfl unhandled

theorem FailsWith.handleIf (first : operation.FailsWith p) {handles : Failure → Bool}
    {handler : Failure → Operation α} (handled : ∀ failure, (handler failure).FailsWith p) :
    (operation.handleIf handles handler).FailsWith p :=
  failsWith_handleIf (fun s => (first s).mono fun _ _ h failure failed _ => h failure failed) handled

theorem FailsWith.ensuring (first : operation.FailsWith p) {cleanup : Operation Unit}
    (cleaned : cleanup.FailsWith p) : (operation.ensuring cleanup).FailsWith p := by
  intro s
  refine (first s).ensuring (fun outcome t held => (cleaned t).mono ?_) fun _ held => held
  intro result u clean
  cases result with
  | ok => exact held
  | error failure =>
    rintro _ ⟨⟩
    exact clean failure rfl

/-- A fault raises some reason. -/
theorem failsWith_perform (raised : ∀ reason, p (.raised reason [])) {call : Call}
    {effect : Operation Json} (effective : effect.FailsWith p) :
    (perform call effect).FailsWith p := by
  refine (failsWith_modify _).bind fun _ => (failsWith_modify _).bind fun _ => ?_
  refine failsWith_get.bind fun s => ?_
  split
  · exact effective
  · split
    · exact failsWith_pure _
    · simp only [discard_bind]
      exact (effective.bind fun _ => failsWith_throw (raised _)).ite (failsWith_throw (raised _))

end

theorem FailsWith.forM {list : List α} {f : α → Operation PUnit} (each : ∀ a, (f a).FailsWith p) :
    (list.forM f).FailsWith p := by
  induction list with
  | nil => exact failsWith_pure PUnit.unit
  | cons a rest ih => exact (each a).bind fun _ => ih

theorem FailsWith.mapM {list : List α} {f : α → Operation β} (each : ∀ a, (f a).FailsWith p) :
    (list.mapM f).FailsWith p := by
  induction list with
  | nil => exact failsWith_pure []
  | cons a rest ih =>
    rw [List.mapM_cons]
    exact (each a).bind fun _ => ih.bind fun _ => failsWith_pure _

end DriveDepot.Operation
