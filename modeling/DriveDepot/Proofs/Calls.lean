import DriveDepot.Proofs.Ends

/-!
What a call can come to under a schedule of faults. The faults considered here raise, before or
after the call takes effect; a call without a fault does what the drive answers.
-/

namespace DriveDepot

/-- The fault raises the failure. -/
def Fault.Throws (fault : Fault) (failure : Failure) : Prop :=
  ∃ reason, fault.outcome = .raises reason ∧ failure = .raised reason []

namespace Schedule

def Calm (schedule : Schedule) : Prop := schedule.faults = []

/-- Faults only raise. -/
def Raising (schedule : Schedule) : Prop :=
  ∀ fault ∈ schedule.faults, ∃ reason, fault.outcome = .raises reason

/-- A fault of the schedule raises the failure. -/
def Raises (schedule : Schedule) (failure : Failure) : Prop :=
  ∃ fault ∈ schedule.faults, fault.Throws failure

theorem Raises.ne_endless {schedule : Schedule} {failure : Failure}
    (raises : schedule.Raises failure) : failure ≠ .endless := by
  obtain ⟨_, _, _, _, rfl⟩ := raises
  nofun

theorem Calm.raising {schedule : Schedule} (calm : schedule.Calm) : schedule.Raising := by
  intro fault member
  rw [calm] at member
  contradiction

theorem Raising.of_reasons {faults : List Fault} (executed : List CallKind)
    (raises : ∀ fault ∈ faults, fault.outcome matches .raises _) :
    Schedule.Raising ⟨faults, executed⟩ := by
  intro fault member
  have := raises fault member
  split at this
  · exact ⟨_, ‹_›⟩
  · contradiction

theorem Raising.of_faults {schedule other : Schedule} (raising : schedule.Raising)
    (same : other.faults = schedule.faults) : other.Raising := by
  rw [Raising, same]
  exact raising

theorem Calm.not_raises {schedule : Schedule} (calm : schedule.Calm) (failure : Failure) :
    ¬ schedule.Raises failure := by
  rintro ⟨fault, member, _⟩
  rw [calm] at member
  contradiction

/-- The fault that the next execution of a call meets. -/
def next? (schedule : Schedule) (call : CallKind) : Option Fault :=
  (schedule.count call).fault? call

/-- The fault that the nth execution of a call meets. -/
def faultAt? (schedule : Schedule) (call : CallKind) (n : Nat) : Option Fault :=
  schedule.faults.find? fun fault => fault.call == call && fault.nth.all (· == (n : Int))

/-- The next execution of the call has its effect: it meets no fault, or one that raises late. -/
def Effective (schedule : Schedule) (call : CallKind) : Prop :=
  ∀ fault, schedule.next? call = some fault →
    fault.late = true ∧ ∃ reason, fault.outcome = .raises reason

theorem next?_eq_faultAt? (schedule : Schedule) (call : CallKind) :
    schedule.next? call = schedule.faultAt? call (schedule.executed.count call + 1) := by
  simp [next?, fault?, count, faultAt?]

theorem lastNumber_of_faults {schedule other : Schedule} (same : other.faults = schedule.faults)
    (call : CallKind) : other.lastNumber call = schedule.lastNumber call := by
  rw [lastNumber, lastNumber, same]

/-- No fault concerns the call. -/
def Spares (schedule : Schedule) (call : CallKind) : Prop :=
  ∀ fault ∈ schedule.faults, fault.call ≠ call

instance (schedule : Schedule) (call : CallKind) : Decidable (schedule.Spares call) :=
  inferInstanceAs (Decidable (∀ fault ∈ schedule.faults, _))

theorem mem_of_next? {schedule : Schedule} {call : CallKind} {fault : Fault}
    (met : schedule.next? call = some fault) : fault ∈ schedule.faults ∧ fault.call = call := by
  have concerned := List.find?_some met
  rw [Bool.and_eq_true, beq_iff_eq] at concerned
  exact ⟨List.mem_of_find?_eq_some met, concerned.1⟩

/-- The next execution of the call meets a fault that raises the failure. -/
def RaisesNext (schedule : Schedule) (call : CallKind) (failure : Failure) : Prop :=
  ∃ fault, schedule.next? call = some fault ∧ fault.Throws failure

/-- The nth execution of the call meets a fault that raises the failure. -/
def RaisesAt (schedule : Schedule) (call : CallKind) (n : Nat) (failure : Failure) : Prop :=
  ∃ fault, schedule.faultAt? call n = some fault ∧ fault.Throws failure

theorem raisesNext_iff (schedule : Schedule) (call : CallKind) (failure : Failure) :
    schedule.RaisesNext call failure ↔
      schedule.RaisesAt call (schedule.executed.count call + 1) failure := by
  rw [RaisesNext, next?_eq_faultAt?]
  rfl

theorem RaisesNext.raises {schedule : Schedule} {call : CallKind} {failure : Failure}
    (h : schedule.RaisesNext call failure) : schedule.Raises failure := by
  obtain ⟨fault, met, throws⟩ := h
  exact ⟨fault, (mem_of_next? met).1, throws⟩

theorem Raising.not_answers {schedule : Schedule} (raising : schedule.Raising) {call : CallKind}
    {fault : Fault} {value : Json} (met : schedule.next? call = some fault) :
    fault.outcome ≠ .answers value := by
  intro answers
  obtain ⟨reason, raises⟩ := raising fault (mem_of_next? met).1
  cases answers.symm.trans raises

theorem Spares.next? {schedule : Schedule} {call : CallKind} (spared : schedule.Spares call) :
    schedule.next? call = none := by
  cases met : schedule.next? call with
  | none => rfl
  | some fault => exact absurd (mem_of_next? met).2 (spared fault (mem_of_next? met).1)

theorem Calm.spares {schedule : Schedule} (calm : schedule.Calm) (call : CallKind) :
    schedule.Spares call := by
  intro fault member
  rw [calm] at member
  contradiction

/-- Executing one call does not change what the others meet. -/
theorem next?_count_of_ne {call other : CallKind} (ne : other ≠ call) (schedule : Schedule) :
    (schedule.count other).next? call = schedule.next? call := by
  have counted : (call :: other :: schedule.executed).count call =
      (call :: schedule.executed).count call := by
    rw [List.count_cons_self, List.count_cons_of_ne ne, List.count_cons_self]
  simp only [Schedule.next?, fault?, count, counted]

end Schedule

namespace Session

/-- The session in which one more call is executed. -/
def called (s : Session) (call : Call) : Session :=
  { s with calls := s.calls ++ [call], schedule := s.schedule.count call.kind }

/-- How many chunks were asked for. -/
def chunks (s : Session) : Nat := (s.calls.map Call.kind).count .nextChunk

theorem chunks_called (s : Session) (call : Call) :
    (s.called call).chunks = s.chunks + if call.kind = .nextChunk then 1 else 0 := by
  simp [chunks, called, List.count_singleton]

/-- How often a call was executed. -/
def executions (s : Session) (call : CallKind) : Nat := s.schedule.executed.count call

/-- No execution of the call between the two sessions met a fault. -/
def Undisturbed (s t : Session) (call : CallKind) : Prop :=
  ∀ n, s.executions call < n → n ≤ t.executions call → s.schedule.faultAt? call n = none

/-- Two sessions that agree on all that operations read, the drive apart. Between them no chunk was
asked for. -/
structure SameAround (s t : Session) : Prop where
  disk : t.disk = s.disk
  layout : t.layout = s.layout
  faults : t.schedule.faults = s.schedule.faults
  chunks : t.chunks = s.chunks

/-- Two sessions that differ only in what was executed and in what was told. -/
structure SameState (s t : Session) : Prop extends SameAround s t where
  drive : t.drive = s.drive

theorem SameAround.trans {s t u : Session} (h : s.SameAround t) (k : t.SameAround u) :
    s.SameAround u :=
  ⟨k.disk.trans h.disk, k.layout.trans h.layout, k.faults.trans h.faults,
    k.chunks.trans h.chunks⟩

theorem SameState.refl (s : Session) : s.SameState s := ⟨⟨rfl, rfl, rfl, rfl⟩, rfl⟩

theorem SameState.trans {s t u : Session} (h : s.SameState t) (k : t.SameState u) :
    s.SameState u :=
  ⟨h.toSameAround.trans k.toSameAround, k.drive.trans h.drive⟩

theorem SameState.journal (s : Session) (journal : List Record) :
    s.SameState { s with journal := journal } := ⟨⟨rfl, rfl, rfl, rfl⟩, rfl⟩

structure Asked (s : Session) (request : Request) (t : Session) : Prop extends s.SameAround t where
  calls : t.calls = s.calls ++ [.drive request]
  schedule : t.schedule = s.schedule.count request.kind

theorem asked_called (s : Session) (request : Request) (drive : Drive) :
    s.Asked request { s.called (.drive request) with drive := drive } := by
  have chunks : (s.called (.drive request)).chunks = s.chunks := by
    rw [chunks_called, if_neg (by cases request <;> simp [Call.kind, Request.kind])]
    rfl
  exact ⟨⟨rfl, rfl, rfl, chunks⟩, rfl, rfl⟩

theorem Asked.executions_self {s t : Session} {request : Request} (h : s.Asked request t) :
    t.executions request.kind = s.executions request.kind + 1 := by
  rw [executions, h.schedule]
  exact List.count_cons_self

theorem Asked.executions_of_ne {s t : Session} {request : Request} (h : s.Asked request t)
    {call : CallKind} (ne : request.kind ≠ call) : t.executions call = s.executions call := by
  rw [executions, h.schedule]
  exact List.count_cons_of_ne ne

theorem Asked.filterMap_calls {s t : Session} {request : Request} (h : s.Asked request t)
    (f : Call → Option α) :
    t.calls.filterMap f = s.calls.filterMap f ++ (f (.drive request)).toList := by
  rw [h.calls, List.filterMap_append]
  cases made : f (.drive request) <;> simp [made]

theorem Asked.journal {s t : Session} {request : Request} (h : s.Asked request t)
    (journal : List Record) : s.Asked request { t with journal := journal } :=
  ⟨h.toSameAround.trans (SameState.journal t journal).toSameAround, h.calls, h.schedule⟩

theorem Asked.of_journal {s t : Session} {request : Request} {journal : List Record}
    (h : { s with journal := journal : Session }.Asked request t) : s.Asked request t :=
  ⟨(SameState.journal s journal).toSameAround.trans h.toSameAround, h.calls, h.schedule⟩

section
variable {s t : Session}

theorem SameAround.raising (h : s.SameAround t) (raising : s.schedule.Raising) :
    t.schedule.Raising := raising.of_faults h.faults

/-- In an undisturbed course that executes the call, its next execution meets no fault. -/
theorem Undisturbed.not_raisesNext {call : CallKind} (free : s.Undisturbed t call)
    (more : s.executions call < t.executions call) (failure : Failure) :
    ¬ s.schedule.RaisesNext call failure := by
  rintro ⟨fault, met, _⟩
  have spared := free (s.executions call + 1) (Nat.lt_succ_self _) more
  rw [Schedule.next?_eq_faultAt?] at met
  cases spared.symm.trans met

/-- What follows in an undisturbed course is undisturbed. -/
theorem Undisturbed.later {u : Session} {call : CallKind} (free : s.Undisturbed u call)
    (faults : t.schedule.faults = s.schedule.faults)
    (more : s.executions call ≤ t.executions call) : t.Undisturbed u call := by
  intro n after upto
  rw [Schedule.faultAt?, faults]
  exact free n (Nat.lt_of_le_of_lt more after) upto

theorem SameAround.undisturbed (h : s.SameAround t) {u : Session} {call : CallKind}
    (more : s.executions call ≤ t.executions call) (free : s.Undisturbed u call) :
    t.Undisturbed u call := free.later h.faults more

theorem Undisturbed.trans {u : Session} {call : CallKind} (free : s.Undisturbed t call)
    (faults : t.schedule.faults = s.schedule.faults) (free' : t.Undisturbed u call) :
    s.Undisturbed u call := by
  intro n after upto
  obtain before | later := Nat.lt_or_ge (t.executions call) n
  · have spared := free' n before upto
    rwa [Schedule.faultAt?, faults] at spared
  · exact free n after later

/-- A call is undisturbed if it meets no fault. -/
theorem Asked.undisturbed_iff {request : Request} (h : s.Asked request t) :
    s.Undisturbed t request.kind ↔ s.schedule.next? request.kind = none := by
  rw [Undisturbed, h.executions_self, Schedule.next?_eq_faultAt?]
  constructor
  · exact fun free => free _ (Nat.lt_succ_self _) (Nat.le_refl _)
  · intro spared n after upto
    obtain rfl : n = s.executions request.kind + 1 := by omega
    exact spared

theorem SameAround.calm (h : s.SameAround t) (calm : s.schedule.Calm) : t.schedule.Calm :=
  h.faults.trans calm

theorem SameAround.raises_iff (h : s.SameAround t) (failure : Failure) :
    t.schedule.Raises failure ↔ s.schedule.Raises failure := by
  rw [Schedule.Raises, Schedule.Raises, h.faults]

end

end Session

namespace Operation

variable {s : Session}

theorem discard_bind (operation : Operation α) (next : PUnit → Operation β) :
    (discard operation >>= next) = operation >>= fun _ => next ⟨⟩ := by
  change ((fun _ => PUnit.unit) <$> operation >>= next) = _
  rw [map_eq_pure_bind, bind_assoc]
  simp only [pure_bind]

/-- What a call comes to that meets a fault. `P` is what its effect comes to. -/
inductive Met (fault : Fault) (P : Except Failure Json → Session → Prop) (s : Session) :
    Except Failure Json → Session → Prop
  | answered {value : Json} (outcome : fault.outcome = .answers value) : Met fault P s (.ok value) s
  | raised {reason : Reason} (outcome : fault.outcome = .raises reason) :
      Met fault P s (.error (.raised reason [])) s
  | raisedLate {reason : Reason} {value : Json} {t : Session}
      (outcome : fault.outcome = .raises reason) (effect : P (.ok value) t) :
      Met fault P s (.error (.raised reason [])) t
  | failed {failure : Failure} {t : Session} (effect : P (.error failure) t) {reason : Reason}
      (outcome : fault.outcome = .raises reason) : Met fault P s (.error failure) t

/-- A call has its effect, unless it meets a fault. -/
theorem Ends.perform_met {call : Call} {effect : Operation Json}
    {P : Except Failure Json → Session → Prop} (effective : effect.Ends (s.called call) P) :
    (perform call effect).Ends s fun outcome t =>
      match s.schedule.next? call.kind with
      | none => P outcome t
      | some fault => Met fault P (s.called call) outcome t := by
  rw [Operation.perform, record, ends_modify_bind, ends_modify_bind, ends_get_bind]
  change Ends (match s.schedule.next? call.kind with | none => effect | some fault => _) _ _
  cases s.schedule.next? call.kind with
  | none => exact effective
  | some fault =>
    cases outcome : fault.outcome with
    | answers value =>
      simp only [outcome]
      exact ends_pure.mpr (Met.answered outcome)
    | raises reason =>
      simp only [outcome]
      cases fault.late
      · exact ends_throw.mpr (Met.raised outcome)
      · simp only [↓reduceIte, discard_bind]
        exact effective.bind (fun value t h => Met.raisedLate outcome h)
          fun failure t h => Met.failed h outcome

/-- A call has its effect, or a fault raises, before the effect or after it. -/
theorem Ends.perform {call : Call} {effect : Operation Json}
    {P : Except Failure Json → Session → Prop} (raising : s.schedule.Raising)
    (effective : effect.Ends (s.called call) P) :
    (perform call effect).Ends s fun outcome t =>
      P outcome t ∨ ∃ failure, outcome = .error failure ∧ s.schedule.Raises failure ∧
        (t = s.called call ∨ ∃ value, P (.ok value) t) := by
  apply (Ends.perform_met effective).mono
  intro outcome t h
  cases next : s.schedule.next? call.kind with
  | none =>
    rw [next] at h
    exact .inl h
  | some fault =>
    rw [next] at h
    have member := (Schedule.mem_of_next? next).1
    cases h with
    | answered answers => exact absurd answers (raising.not_answers next)
    | raised raises => exact .inr ⟨_, rfl, ⟨fault, member, _, raises, rfl⟩, .inl rfl⟩
    | raisedLate raises effect =>
      exact .inr ⟨_, rfl, ⟨fault, member, _, raises, rfl⟩, .inr ⟨_, effect⟩⟩
    | failed effect => exact .inl effect

inductive Answered (request : Request) (s : Session) : Except Failure Json → Session → Prop
  | done {value : Json} {drive : Drive} (answer : s.drive.answer request = .ok (value, drive)) :
      Answered request s (.ok value) { s with drive := drive }
  | refused {e : ProviderError} (answer : s.drive.answer request = .error e) :
      Answered request s (.error (.ofProvider e)) s

theorem answer_ends (request : Request) (s : Session) :
    (answer request).Ends s (Answered request s) := by
  rw [answer, ends_get_bind]
  cases answered : s.drive.answer request with
  | error e => exact .refused answered
  | ok found => exact .done answered

/-- A request does what the drive answers, unless it meets a fault. -/
theorem request_met (request : Request) (s : Session) :
    (Operation.request request).Ends s fun outcome t =>
      match s.schedule.next? request.kind with
      | none => Answered request (s.called (.drive request)) outcome t
      | some fault => Met fault (Answered request (s.called (.drive request)))
          (s.called (.drive request)) outcome t :=
  Ends.perform_met (answer_ends request _)

theorem request_asks (request : Request) (s : Session) :
    (Operation.request request).Ends s fun _ t => s.Asked request t := by
  apply (request_met request s).mono
  intro outcome t h
  have answered {outcome : Except Failure Json} {u : Session}
      (k : Answered request (s.called (.drive request)) outcome u) : s.Asked request u := by
    cases k with
    | done => exact s.asked_called request _
    | refused => exact s.asked_called request s.drive
  split at h
  · exact answered h
  · cases h with
    | answered | raised => exact s.asked_called request s.drive
    | raisedLate _ effect => exact answered effect
    | failed effect => exact answered effect

/-- A request that changes the drive has its effect, and the drive grants it. -/
theorem request_affects (request : Request) (s : Session) :
    (Operation.request request).Ends s fun _ t => s.Asked request t ∧ (t.drive = s.drive ∨
      s.schedule.Effective request.kind ∧
        ∃ value, s.drive.answer request = .ok (value, t.drive)) := by
  refine (request_asks request s).and ?_
  have effect : (answer request).Ends (s.called (.drive request)) fun _ t => t.drive = s.drive ∨
      ∃ value, s.drive.answer request = .ok (value, t.drive) := by
    apply (answer_ends request _).mono
    intro outcome t answered
    cases answered with
    | done answer => exact .inr ⟨_, answer⟩
    | refused => exact .inl rfl
  rw [Operation.request, Operation.perform, record, ends_modify_bind, ends_modify_bind,
    ends_get_bind]
  change Ends (match s.schedule.next? request.kind with | none => _ | some fault => _) _ _
  cases met : s.schedule.next? request.kind with
  | none =>
    have effective : s.schedule.Effective request.kind := by
      intro fault other
      cases met.symm.trans other
    exact effect.mono fun _ _ h => h.imp_right fun granted => ⟨effective, granted⟩
  | some fault =>
    cases outcome : fault.outcome with
    | answers value =>
      simp only [outcome]
      exact ends_pure.mpr (.inl rfl)
    | raises reason =>
      simp only [outcome]
      cases late : fault.late with
      | false => exact ends_throw.mpr (.inl rfl)
      | true =>
        have effective : s.schedule.Effective request.kind := by
          intro other met'
          obtain rfl := Option.some.inj (met.symm.trans met')
          exact ⟨late, reason, outcome⟩
        simp only [↓reduceIte, discard_bind]
        exact effect.bind (fun _ _ h => h.imp_right fun granted => ⟨effective, granted⟩)
          fun _ _ h => h.imp_right fun granted => ⟨effective, granted⟩

inductive Granted (request : Request) (value : Json) (drive : Drive) (s : Session) :
    Except Failure Json → Drive → Prop
  | done (spared : s.schedule.next? request.kind = none) :
      Granted request value drive s (.ok value) drive
  | replaced {fault : Fault} {other : Json} (met : s.schedule.next? request.kind = some fault)
      (outcome : fault.outcome = .answers other) : Granted request value drive s (.ok other) s.drive
  | raised {failure : Failure} (raises : s.schedule.RaisesNext request.kind failure) :
      Granted request value drive s (.error failure) s.drive
  | raisedLate {failure : Failure} (raises : s.schedule.RaisesNext request.kind failure) :
      Granted request value drive s (.error failure) drive

inductive Denied (request : Request) (e : ProviderError) (s : Session) : Except Failure Json → Prop
  | refused : Denied request e s (.error (.ofProvider e))
  | replaced {fault : Fault} {other : Json} (met : s.schedule.next? request.kind = some fault)
      (outcome : fault.outcome = .answers other) : Denied request e s (.ok other)
  | raised {failure : Failure} (raises : s.schedule.RaisesNext request.kind failure) :
      Denied request e s (.error failure)

theorem request_granted {request : Request} {value : Json} {drive : Drive}
    (answer : s.drive.answer request = .ok (value, drive)) :
    (Operation.request request).Ends s fun outcome t =>
      s.Asked request t ∧ Granted request value drive s outcome t.drive := by
  refine (request_asks request s).and ((request_met request s).mono fun outcome t h => ?_)
  have answered {outcome : Except Failure Json} {u : Session}
      (k : Answered request (s.called (.drive request)) outcome u) :
      outcome = .ok value ∧ u.drive = drive := by
    cases k with
    | done answer' =>
      obtain ⟨rfl, rfl⟩ := Prod.mk.inj (Except.ok.inj (answer'.symm.trans answer))
      exact ⟨rfl, rfl⟩
    | refused answer' => cases answer'.symm.trans answer
  split at h
  · rename_i spared
    obtain ⟨rfl, same⟩ := answered h
    exact same ▸ .done spared
  · rename_i fault met
    cases h with
    | answered outcome => exact .replaced met outcome
    | raised outcome => exact .raised ⟨fault, met, _, outcome, rfl⟩
    | raisedLate outcome effect =>
      exact (answered effect).2 ▸ .raisedLate ⟨fault, met, _, outcome, rfl⟩
    | failed effect => cases (answered effect).1

theorem request_denied {request : Request} {e : ProviderError}
    (answer : s.drive.answer request = .error e) :
    (Operation.request request).Ends s fun outcome t =>
      s.Asked request t ∧ t.drive = s.drive ∧ Denied request e s outcome := by
  refine (request_asks request s).and ((request_met request s).mono fun outcome t h => ?_)
  have answered {outcome : Except Failure Json} {u : Session}
      (k : Answered request (s.called (.drive request)) outcome u) :
      u.drive = s.drive ∧ outcome = .error (.ofProvider e) := by
    cases k with
    | done answer' => cases answer'.symm.trans answer
    | refused answer' =>
      obtain rfl := Except.error.inj (answer'.symm.trans answer)
      exact ⟨rfl, rfl⟩
  split at h
  · obtain ⟨drive, rfl⟩ := answered h
    exact ⟨drive, .refused⟩
  · rename_i fault met
    cases h with
    | answered outcome => exact ⟨rfl, .replaced met outcome⟩
    | raised outcome => exact ⟨rfl, .raised ⟨fault, met, _, outcome, rfl⟩⟩
    | raisedLate outcome effect => cases (answered effect).2
    | failed effect =>
      obtain ⟨drive, failed⟩ := answered effect
      exact ⟨drive, failed ▸ .refused⟩

section
variable {request : Request} {value a : Json} {drive after : Drive} {e : ProviderError}
  {failure : Failure}

/-- Where faults only raise, a request that succeeds has had its effect. -/
theorem Granted.of_ok (raising : s.schedule.Raising)
    (h : Granted request value drive s (.ok a) after) :
    s.schedule.next? request.kind = none ∧ a = value ∧ after = drive := by
  cases h with
  | done spared => exact ⟨spared, rfl, rfl⟩
  | replaced met outcome => exact absurd outcome (raising.not_answers met)

/-- A request that fails has had its effect or not. -/
theorem Granted.of_error (h : Granted request value drive s (.error failure) after) :
    s.schedule.RaisesNext request.kind failure ∧ (after = s.drive ∨ after = drive) := by
  cases h with
  | raised raises => exact ⟨raises, .inl rfl⟩
  | raisedLate raises => exact ⟨raises, .inr rfl⟩

theorem Denied.not_ok (raising : s.schedule.Raising) : ¬ Denied request e s (.ok a) := by
  intro h
  cases h with
  | replaced met outcome => exact raising.not_answers met outcome

theorem Denied.of_error (h : Denied request e s (.error failure)) :
    failure = .ofProvider e ∨ s.schedule.RaisesNext request.kind failure := by
  cases h with
  | refused => exact .inl rfl
  | raised raises => exact .inr raises

end

inductive Requested (request : Request) (s : Session) : Except Failure Json → Session → Prop
  | answered {value : Json} {drive : Drive} (answer : s.drive.answer request = .ok (value, drive)) :
      Requested request s (.ok value) { s.called (.drive request) with drive := drive }
  | refused {e : ProviderError} (answer : s.drive.answer request = .error e) :
      Requested request s (.error (.ofProvider e)) (s.called (.drive request))
  | raised {failure : Failure} (raises : s.schedule.Raises failure) :
      Requested request s (.error failure) (s.called (.drive request))
  | raisedLate {failure : Failure} {value : Json} {drive : Drive}
      (raises : s.schedule.Raises failure) (answer : s.drive.answer request = .ok (value, drive)) :
      Requested request s (.error failure) { s.called (.drive request) with drive := drive }

theorem request_ends (raising : s.schedule.Raising) (request : Request) :
    (Operation.request request).Ends s (Requested request s) := by
  apply (Ends.perform raising (answer_ends request _)).mono
  intro outcome t h
  rcases h with h | ⟨failure, rfl, raises, rfl | ⟨value, h⟩⟩
  · cases h with
    | done answer => exact .answered answer
    | refused answer => exact .refused answer
  · exact .raised raises
  · cases h with
    | done answer => exact .raisedLate raises answer

theorem Requested.sameAround {request : Request} {outcome : Except Failure Json} {t : Session}
    (h : Requested request s outcome t) : s.SameAround t := by
  cases h with
  | answered | raisedLate => exact (s.asked_called request _).toSameAround
  | refused | raised => exact (s.asked_called request s.drive).toSameAround

/-- Without faults a request does what the drive answers. -/
theorem request_calm {request : Request} {value : Json} {drive : Drive} (calm : s.schedule.Calm)
    (answer : s.drive.answer request = .ok (value, drive)) :
    (Operation.request request).Ends s fun outcome t =>
      outcome = .ok value ∧ s.SameAround t ∧ t.drive = drive := by
  apply (request_granted answer).mono
  rintro outcome t ⟨asked, granted⟩
  have spared := (calm.spares request.kind).next?
  generalize t.drive = after at granted ⊢
  cases granted with
  | done => exact ⟨rfl, asked.toSameAround, rfl⟩
  | replaced met => cases spared.symm.trans met
  | raised raises | raisedLate raises => exact absurd raises.raises (calm.not_raises _)

end Operation

end DriveDepot
