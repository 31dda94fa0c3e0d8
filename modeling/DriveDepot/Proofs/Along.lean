import DriveDepot.Proofs.Ends
import Mathlib.Order.Defs.Unbundled

namespace DriveDepot.Operation

/-- Wherever the operation begins, it leads along the relation, whether it fails or not. -/
def Along (R : Session → Session → Prop) (operation : Operation α) : Prop :=
  ∀ s, operation.Ends s fun _ t => R s t

variable {R : Session → Session → Prop}

theorem Along.ite {operation other : Operation α} (first : operation.Along R) {c : Prop}
    [Decidable c] (second : other.Along R) : (if c then operation else other).Along R := by
  split
  · exact first
  · exact second

variable [IsPreorder Session R]

theorem along_pure (a : α) : (pure a : Operation α).Along R := fun s => refl_of R s

theorem along_throw (failure : Failure) : (throw failure : Operation α).Along R :=
  fun s => refl_of R s

theorem along_ofExcept (failure : ε → Failure) (result : Except ε α) :
    (ofExcept failure result).Along R := by
  cases result with
  | ok a => exact along_pure a
  | error e => exact along_throw (failure e)

theorem along_get : (get : Operation Session).Along R := fun s => refl_of R s

section
variable {operation : Operation α} (first : operation.Along R)
include first

theorem Along.bind {next : α → Operation β} (rest : ∀ a, (next a).Along R) :
    (operation >>= next).Along R := by
  intro s
  refine (first s).bind ?_ fun _ _ h => h
  exact fun a t h => (rest a t).mono fun _ _ k => trans_of R h k

theorem Along.tryCatch {handler : Failure → Operation α}
    (handled : ∀ failure, (handler failure).Along R) : (tryCatch operation handler).Along R := by
  intro s
  refine (first s).tryCatch (fun _ _ h => h) ?_
  exact fun failure t h => (handled failure t).mono fun _ _ k => trans_of R h k

theorem Along.handleIf {p : Failure → Bool} {handler : Failure → Operation α}
    (handled : ∀ failure, (handler failure).Along R) :
    (operation.handleIf p handler).Along R :=
  first.tryCatch fun failure => (handled failure).ite (along_throw failure)

theorem Along.onAnyError {handler : Failure → Operation α}
    (handled : ∀ failure, (handler failure).Along R) : (operation.onAnyError handler).Along R :=
  first.handleIf handled

theorem Along.ensuring {cleanup : Operation Unit} (cleaned : cleanup.Along R) :
    (operation.ensuring cleanup).Along R := by
  intro s
  refine (first s).ensuring (fun outcome t h => (cleaned t).mono ?_) fun _ h => h
  intro result u k
  cases result <;> exact trans_of R h k

theorem Along.discard : (discard operation : Operation PUnit).Along R := by
  change ((fun _ => PUnit.unit) <$> operation).Along R
  rw [map_eq_pure_bind]
  exact first.bind fun _ => along_pure _

end

theorem along_layout : layout.Along R := along_get.bind fun _ => along_pure _

theorem along_disk : disk.Along R := along_get.bind fun _ => along_pure _

theorem Along.forM {list : List α} {f : α → Operation PUnit} (each : ∀ a, (f a).Along R) :
    (list.forM f).Along R := by
  induction list with
  | nil => exact along_pure PUnit.unit
  | cons a rest ih => exact (each a).bind fun _ => ih

theorem Along.mapM {list : List α} {f : α → Operation β} (each : ∀ a, (f a).Along R) :
    (list.mapM f).Along R := by
  induction list with
  | nil => exact along_pure []
  | cons a rest ih =>
    rw [List.mapM_cons]
    exact (each a).bind fun _ => ih.bind fun _ => along_pure _

end DriveDepot.Operation
