import DriveDepot.Drive.Call

/-!
A schedule says which executions of which calls go wrong, and how: a call can raise, before or
after it has taken effect, or be answered in its place.
-/

namespace DriveDepot

inductive Fault.Outcome
  | raises (reason : Reason)
  | answers (value : Json)

structure Fault where
  call : CallKind
  /-- Which execution of the call, counted from one; every one without a number. -/
  nth : Option Int
  /-- Whether the call takes effect before it raises. -/
  late : Bool
  outcome : Fault.Outcome

structure Schedule where
  faults : List Fault
  /-- The calls executed so far. -/
  executed : List CallKind

namespace Schedule

def calm : Schedule := ⟨[], []⟩

def ofFaults (faults : List Fault) : Schedule := ⟨faults, []⟩

/-- Counts one more execution of a call. -/
def count (schedule : Schedule) (call : CallKind) : Schedule :=
  { schedule with executed := call :: schedule.executed }

/-- The first fault that concerns the latest execution of a call. -/
def fault? (schedule : Schedule) (call : CallKind) : Option Fault :=
  schedule.faults.find? fun fault =>
    fault.call == call && fault.nth.all (· == (schedule.executed.count call : Int))

/-- The highest number that a fault of the call has. -/
def lastNumber (schedule : Schedule) (call : CallKind) : Nat :=
  (schedule.faults.filter (·.call == call)).foldr
    (fun fault last => max (fault.nth.getD 0).toNat last) 0

end Schedule

end DriveDepot
