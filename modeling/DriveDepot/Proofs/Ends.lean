import DriveDepot.Operation

/-!
What an operation comes to: a condition on its outcome and on the session that it leaves. The rules
follow the ways in which operations are put together, so that a proof about an operation reads its
steps in order and need not know how a session is passed on.
-/

namespace DriveDepot.Operation

variable {s : Session} {P Q : Except Failure α → Session → Prop}
variable {R : Except Failure β → Session → Prop}

/-- Run from `s`, the operation ends with an outcome and a session that satisfy `Q`. -/
def Ends (operation : Operation α) (s : Session) (Q : Except Failure α → Session → Prop) : Prop :=
  Q (runOn operation s).1 (runOn operation s).2

theorem Ends.mono {operation : Operation α} (h : operation.Ends s P)
    (weaker : ∀ outcome t, P outcome t → Q outcome t) : operation.Ends s Q :=
  weaker _ _ h

theorem Ends.run (operation : Operation α) (s : Session) :
    operation.Ends s fun outcome t => runOn operation s = (outcome, t) := rfl

theorem Ends.and {operation : Operation α} (h : operation.Ends s P) (k : operation.Ends s Q) :
    operation.Ends s fun outcome t => P outcome t ∧ Q outcome t :=
  ⟨h, k⟩

/-- What the end does not decide can be assumed beforehand. -/
theorem Ends.imp {operation : Operation α} {p : Prop} (h : p → operation.Ends s Q) :
    operation.Ends s fun outcome t => p → Q outcome t := h

/-- What holds at every end holds at the one that there is. -/
theorem Ends.of_eq {operation : Operation α} {outcome : Except Failure α} {t : Session}
    (h : operation.Ends s P) (run : runOn operation s = (outcome, t)) : P outcome t := by
  rw [Ends, run] at h
  exact h

theorem ends_pure {a : α} : (pure a : Operation α).Ends s Q ↔ Q (.ok a) s := Iff.rfl

theorem ends_throw {failure : Failure} :
    (throw failure : Operation α).Ends s Q ↔ Q (.error failure) s := Iff.rfl

theorem Ends.bind {operation : Operation α} {next : α → Operation β} (first : operation.Ends s P)
    (rest : ∀ a t, P (.ok a) t → (next a).Ends t R)
    (failed : ∀ failure t, P (.error failure) t → R (.error failure) t) :
    (operation >>= next).Ends s R := by
  rw [Ends] at first
  rw [Ends, runOn_bind]
  rcases run : runOn operation s with ⟨_ | a, t⟩
  · exact failed _ _ (by simpa only [run] using first)
  · exact rest a t (by simpa only [run] using first)

/-- Where it does not matter what the first operation comes to. -/
theorem Ends.any_bind {operation : Operation α} {next : α → Operation β}
    (rest : ∀ a t, (next a).Ends t R) (failed : ∀ failure t, R (.error failure) t) :
    (operation >>= next).Ends s R :=
  Ends.bind (P := fun _ _ => True) trivial (fun a t _ => rest a t) fun failure t _ =>
    failed failure t

theorem Ends.tryCatch {operation : Operation α} {handler : Failure → Operation α}
    (first : operation.Ends s P) (succeeded : ∀ a t, P (.ok a) t → Q (.ok a) t)
    (caught : ∀ failure t, P (.error failure) t → (handler failure).Ends t Q) :
    (tryCatch operation handler).Ends s Q := by
  rw [Ends] at first
  rw [Ends, runOn_tryCatch]
  rcases run : runOn operation s with ⟨failure | a, t⟩
  · exact caught failure t (by simpa only [run] using first)
  · exact succeeded a t (by simpa only [run] using first)

theorem Ends.handleIf {p : Failure → Bool} {operation : Operation α}
    {handler : Failure → Operation α} (first : operation.Ends s P)
    (succeeded : ∀ a t, P (.ok a) t → Q (.ok a) t)
    (caught : ∀ failure t, p failure = true → P (.error failure) t → (handler failure).Ends t Q)
    (passed : ∀ failure t, p failure = false → P (.error failure) t → Q (.error failure) t) :
    (operation.handleIf p handler).Ends s Q := by
  apply first.tryCatch succeeded
  intro failure t h
  cases matched : p failure
  · simpa [matched, ends_throw] using passed failure t matched h
  · simpa [matched] using caught failure t matched h

theorem Ends.map {f : α → β} {operation : Operation α} (first : operation.Ends s P) :
    (f <$> operation).Ends s fun outcome t => ∃ result, P result t ∧ outcome = result.map f := by
  rw [map_eq_pure_bind]
  exact first.bind (fun a _ h => ⟨.ok a, h, rfl⟩) fun failure _ h => ⟨.error failure, h, rfl⟩

/-- An operation without an end never comes to its handler. -/
theorem Ends.onAnyError {operation : Operation α} {handler : Failure → Operation α}
    (first : operation.Ends s P) (succeeded : ∀ a t, P (.ok a) t → Q (.ok a) t)
    (caught : ∀ failure t, P (.error failure) t → (handler failure).Ends t Q)
    (endless : ∀ t, P (.error .endless) t → Q (.error .endless) t) :
    (operation.onAnyError handler).Ends s Q := by
  refine first.handleIf succeeded (fun failure t _ => caught failure t) ?_
  intro failure t unraised h
  cases failure with
  | raised => cases unraised
  | endless => exact endless t h

theorem runOn_attempt (operation : Operation α) (s : Session) :
    runOn operation.attempt s =
      match runOn operation s with
      | (.error .endless, t) => (.error .endless, t)
      | (outcome, t) => (.ok outcome, t) := by
  rw [attempt, Operation.onAnyError, Operation.handleIf, runOn_tryCatch, map_eq_pure_bind,
    runOn_bind]
  rcases runOn operation s with ⟨(_ | _) | _, _⟩ <;> rfl

theorem Ends.attempt {operation : Operation α}
    {R : Except Failure (Except Failure α) → Session → Prop}
    (first : operation.Ends s P) (ended : ∀ outcome t, P outcome t → R (.ok outcome) t)
    (endless : ∀ t, P (.error .endless) t → R (.error .endless) t) :
    operation.attempt.Ends s R := by
  rw [Ends] at first
  rw [Ends, runOn_attempt]
  rcases run : runOn operation s with ⟨(_ | _) | _, t⟩ <;> rw [run] at first
  · exact ended _ t first
  · exact endless t first
  · exact ended _ t first

/-- What never ends is not cleaned up. -/
theorem Ends.ensuring {operation : Operation α} {cleanup : Operation Unit}
    (first : operation.Ends s P)
    (cleaned : ∀ outcome t, P outcome t → cleanup.Ends t fun result u =>
      match result with
      | .ok () => Q outcome u
      | .error failure => Q (.error failure) u)
    (endless : ∀ t, P (.error .endless) t → Q (.error .endless) t) :
    (operation.ensuring cleanup).Ends s Q := by
  have attempted : operation.attempt.Ends s fun result t =>
      match result with
      | .ok outcome => P outcome t
      | .error failure => Q (.error failure) t := first.attempt (fun _ _ h => h) endless
  refine attempted.bind (fun outcome t h => ?_) fun _ _ h => h
  refine (cleaned outcome t h).bind (fun _ u last => ?_) fun _ _ h => h
  cases outcome <;> exact last

theorem Ends.log_bind {level : Level} {message : String} {next : Unit → Operation β}
    (rest : ∀ journal, (next ()).Ends { s with journal } R) :
    (log level message >>= next).Ends s R := by
  rw [Ends, runOn_bind, log, runOn_modify]
  by_cases kept : s.threshold ≤ level.weight
  · simpa only [Ends, kept, ↓reduceIte] using rest _
  · simpa only [Ends, kept, ↓reduceIte] using rest s.journal

theorem Ends.log {level : Level} {message : String} {Q : Except Failure Unit → Session → Prop}
    (told : ∀ journal, Q (.ok ()) { s with journal }) : (log level message).Ends s Q := by
  rw [← bind_pure (Operation.log level message)]
  exact Ends.log_bind told

theorem ends_get_bind {next : Session → Operation β} :
    (get >>= next).Ends s R ↔ (next s).Ends s R := by
  rw [Ends, runOn_bind, runOn_get]
  rfl

theorem ends_modify_bind {f : Session → Session} {next : Unit → Operation β} :
    (modify f >>= next).Ends s R ↔ (next ()).Ends (f s) R := by
  rw [Ends, runOn_bind, runOn_modify]
  rfl

theorem ends_layout_bind {next : Layout → Operation β} :
    (layout >>= next).Ends s R ↔ (next s.layout).Ends s R := by
  rw [layout, bind_assoc, ends_get_bind, pure_bind]

theorem ends_disk_bind {next : Disk → Operation β} :
    (disk >>= next).Ends s R ↔ (next s.disk).Ends s R := by
  rw [disk, bind_assoc, ends_get_bind, pure_bind]

theorem Ends.ofExcept_bind {result : Except ε α} {failure : ε → Failure}
    {next : α → Operation β} (rest : ∀ a, result = .ok a → (next a).Ends s R)
    (failed : ∀ e, result = .error e → R (.error (failure e)) s) :
    (ofExcept failure result >>= next).Ends s R := by
  cases result with
  | ok a => rw [ofExcept_ok, pure_bind]; exact rest a rfl
  | error e =>
    rw [ofExcept_error]
    exact failed e rfl

end DriveDepot.Operation
