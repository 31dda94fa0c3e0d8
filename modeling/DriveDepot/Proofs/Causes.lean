import DriveDepot.Proofs.Provider

namespace DriveDepot

namespace Failure

/-- What the chain of causes ends in. -/
def origin : Failure → Option Reason
  | .raised reason causes => some (causes.getLastD reason)
  | .endless => none

@[simp] theorem origin_wrap (failure : Failure) (error : StorageError) :
    (failure.wrap error).origin = failure.origin := by
  cases failure with
  | raised => exact congrArg some List.getLastD_cons
  | endless => rfl

/-- The failure is the reason itself, or a report of it, or a report of such a report. -/
inductive Stems (reason : Reason) : Failure → Prop
  | itself : Stems reason (.raised reason [])
  | wrap {failure : Failure} (stems : Stems reason failure) (error : StorageError) :
      Stems reason (failure.wrap error)

variable {reason : Reason} {failure : Failure}

theorem Stems.origin (stems : Stems reason failure) : failure.origin = some reason := by
  induction stems with
  | itself => rfl
  | wrap _ error ih => exact (origin_wrap _ error).trans ih

theorem Stems.isRaised (stems : Stems reason failure) : failure.isRaised = true := by
  induction stems with
  | itself => rfl
  | wrap _ error ih => exact (isRaised_wrap error _).trans ih

theorem Stems.eq_or_isStorage (stems : Stems reason failure) :
    failure = .raised reason [] ∨ failure.isStorage = true := by
  cases stems with
  | itself => exact .inl rfl
  | wrap stems error => exact .inr ((isStorage_wrap error _).trans stems.isRaised)

end Failure

/-- Why a failure comes up, by what the last call raised, if it raised anything. Some faults of the
file system are among those that an operation may meet. -/
inductive Failure.Blames (refused : Disk.Fault → Prop) : Option Reason → Failure → Prop
  | call {error : ProviderError} {failure : Failure} (stems : failure.Stems (.provider error)) :
      Blames refused (some (.provider error)) failure
  | disk {fault : Disk.Fault} {failure : Failure} (met : refused fault)
      (stems : failure.Stems (.provider (.disk fault))) : Blames refused none failure
  | noPath {fault : Disk.Fault} (met : refused fault) (null : fault.refusal = .nullCharacter) :
      Blames refused none (.ofDisk fault)
  | own {error : StorageError} {failure : Failure} (stems : failure.Stems (.storage error)) :
      Blames refused none failure

namespace Failure

variable {refused : Disk.Fault → Prop} {raised : Option Reason} {failure : Failure}

theorem Blames.wrap (blames : failure.Blames refused raised)
    (reported : failure.isStorage = true ∨ failure.isProvider = true) (error : StorageError) :
    (failure.wrap error).Blames refused raised := by
  cases blames with
  | call stems => exact .call (stems.wrap error)
  | disk met stems => exact .disk met (stems.wrap error)
  | own stems => exact .own (stems.wrap error)
  | noPath met null =>
    rw [ofDisk, if_pos null] at reported
    cases reported <;> contradiction

theorem blames_ofDisk {fault : Disk.Fault} (met : refused fault) :
    (ofDisk fault).Blames refused none := by
  by_cases null : fault.refusal = .nullCharacter
  · exact .noPath met null
  · refine .disk met ?_
    rw [ofDisk, if_neg null]
    exact .itself

end Failure

namespace Operation

/-- What was raised last, and what is the matter with the file system, accounts for what an
operation came to. Where it has succeeded nothing was raised last. -/
def Accounts (refused : Disk.Fault → Prop) (s : Session) (outcome : Except Failure α)
    (t : Session) : Prop :=
  ∃ made, s.Made made t ∧
    match outcome with
    | .ok _ => s.provider.raised? made = none
    | .error failure => failure.Blames refused (s.provider.raised? made)

section
variable {refused : Disk.Fault → Prop} {t u : Session} {outcome : Except Failure α}

theorem Accounts.fair (h : Accounts refused s outcome t) (fair : s.provider.Fair) :
    t.provider.Fair := by
  obtain ⟨made, made_between, _⟩ := h
  rw [made_between.provider]
  exact fair.after made

/-- One operation after another. -/
theorem Accounts.trans {a : β} (h : Accounts refused s (.ok a) t)
    (k : Accounts refused t outcome u) : Accounts refused s outcome u := by
  obtain ⟨made, first, quiet⟩ := h
  obtain ⟨more, second, told⟩ := k
  refine ⟨made ++ more, first.trans second, ?_⟩
  have same : s.provider.raised? (made ++ more) = t.provider.raised? more := by
    by_cases some_more : more = []
    · rw [some_more, List.append_nil, Provider.raised?_nil]
      exact quiet
    · rw [first.provider, Provider.raised?_append made some_more]
  rw [same]
  exact told

theorem Accounts.quiet (h : Accounts refused s outcome t) (calls : u.calls = t.calls)
    (provider : u.provider = t.provider) : Accounts refused s outcome u := by
  obtain ⟨made, between, told⟩ := h
  exact ⟨made, ⟨calls.trans between.calls, provider.trans between.provider⟩, told⟩

theorem accounts_ok (a : α) (calls : t.calls = s.calls) (provider : t.provider = s.provider) :
    Accounts refused s (.ok a) t := ⟨[], .none calls provider, rfl⟩

theorem accounts_error {failure : Failure} (blames : failure.Blames refused none)
    (calls : t.calls = s.calls) (provider : t.provider = s.provider) :
    Accounts refused s (.error failure : Except Failure α) t :=
  ⟨[], .none calls provider, blames⟩

theorem accounts_of_lists (h : s.Lists t) (a : α) : Accounts refused s (.ok a) t := by
  obtain ⟨made, between, lists⟩ := h
  exact ⟨made, between, Provider.raised?_of_lists lists⟩

end

/-- From a fair provider on, the operation is accounted for. -/
def Accountable (refused : Disk.Fault → Prop) (operation : Operation α) : Prop :=
  ∀ s : Session, s.provider.Fair → operation.Ends s (Accounts refused s)

section
variable {refused : Disk.Fault → Prop} {operation other : Operation α}

theorem accountable_pure (a : α) : (pure a : Operation α).Accountable refused :=
  fun _ _ => ends_pure.mpr (accounts_ok a rfl rfl)

theorem accountable_storageError (error : StorageError) :
    (storageError error : Operation α).Accountable refused :=
  fun _ _ => ends_throw.mpr (accounts_error (.own .itself) rfl rfl)

theorem accountable_log (level : Level) (message : String) :
    (log level message).Accountable refused :=
  fun _ _ => Ends.log fun _ => accounts_ok () rfl rfl

theorem accountable_layout : layout.Accountable refused := fun s _ => accounts_ok s.layout rfl rfl

theorem accountable_setLayout (layout : Layout) : (setLayout layout).Accountable refused :=
  fun _ _ => accounts_ok () rfl rfl

theorem accountable_setDisk (disk : Disk) : (setDisk disk).Accountable refused :=
  fun _ _ => accounts_ok () rfl rfl

theorem Accounts.bind {s : Session} (fair : s.provider.Fair) {P : Except Failure α → Session → Prop}
    (first : operation.Ends s fun outcome t => Accounts refused s outcome t ∧ P outcome t)
    {next : α → Operation β} (rest : ∀ a t, t.provider.Fair → P (.ok a) t →
      (next a).Ends t (Accounts refused t)) : (operation >>= next).Ends s (Accounts refused s) := by
  refine first.bind ?_ fun _ _ h => h.1
  rintro a t ⟨accounts, told⟩
  exact (rest a t (accounts.fair fair) told).mono fun _ _ later => accounts.trans later

theorem Accounts.andThen {s : Session} (fair : s.provider.Fair)
    (first : operation.Ends s (Accounts refused s)) {next : α → Operation β}
    (rest : ∀ a t, t.provider.Fair → (next a).Ends t (Accounts refused t)) :
    (operation >>= next).Ends s (Accounts refused s) :=
  Accounts.bind fair (first.mono fun _ _ h => ⟨h, trivial⟩) fun a t fair' _ => rest a t fair'

theorem Accounts.log_bind {s : Session} {level : Level} {message : String}
    {next : Unit → Operation β}
    (rest : ∀ journal, (next ()).Ends { s with journal } (Accounts refused { s with journal })) :
    (log level message >>= next).Ends s (Accounts refused s) := by
  refine Ends.log_bind fun journal => (rest journal).mono fun _ _ h => ?_
  have told : Accounts refused s (.ok ()) { s with journal } := accounts_ok () rfl rfl
  exact told.trans h

theorem Accountable.bind (first : operation.Accountable refused) {next : α → Operation β}
    (rest : ∀ a, (next a).Accountable refused) : (operation >>= next).Accountable refused :=
  fun s fair => Accounts.andThen fair (first s fair) fun a => rest a

theorem Accountable.ite {c : Prop} [Decidable c] (first : operation.Accountable refused)
    (second : other.Accountable refused) :
    (if c then operation else other).Accountable refused := by
  split
  · exact first
  · exact second

theorem Accountable.forM {list : List α} {f : α → Operation PUnit}
    (each : ∀ a, (f a).Accountable refused) : (list.forM f).Accountable refused := by
  induction list with
  | nil => exact accountable_pure PUnit.unit
  | cons a rest ih => exact (each a).bind fun _ => ih

/-- The handler reports the failure, and does nothing else. -/
def Reports (handler : Failure → Operation α) (error : StorageError) : Prop :=
  ∀ failure t, (handler failure).Ends t fun outcome u =>
    outcome = .error (failure.wrap error) ∧ u.calls = t.calls ∧ u.provider = t.provider

theorem reports_log_throw (level : Level) (message : Failure → String) (error : StorageError) :
    Reports (fun failure => do log level (message failure); throw (failure.wrap error) :
      Failure → Operation α) error :=
  fun _ _ => Ends.log_bind fun _ => ends_throw.mpr ⟨rfl, rfl, rfl⟩

theorem reports_throw (error : StorageError) :
    Reports (fun failure => throw (failure.wrap error) : Failure → Operation α) error :=
  fun _ _ => ends_throw.mpr ⟨rfl, rfl, rfl⟩

theorem Accounts.handleIf {s : Session} (first : operation.Ends s (Accounts refused s))
    {p : Failure → Bool} (some_reports : ∀ failure, p failure = true →
      failure.isStorage = true ∨ failure.isProvider = true)
    {handler : Failure → Operation α} {error : StorageError} (reports : Reports handler error) :
    (operation.handleIf p handler).Ends s (Accounts refused s) := by
  refine Ends.handleIf first (fun _ _ h => h) ?_ fun _ _ _ h => h
  rintro failure t matched ⟨made, between, blames⟩
  apply (reports failure t).mono
  rintro outcome u ⟨rfl, calls, provider⟩
  exact Accounts.quiet ⟨made, between, blames.wrap (some_reports failure matched) error⟩ calls
    provider

theorem Accounts.ensuring {s : Session} {P : Session → Prop}
    (first : operation.Ends s fun outcome t => Accounts refused s outcome t ∧ P t)
    {cleanup : Operation Unit} (cleaned : ∀ t, P t → cleanup.Ends t fun outcome u =>
      outcome = .ok () ∧ u.calls = t.calls ∧ u.provider = t.provider) :
    (operation.ensuring cleanup).Ends s (Accounts refused s) := by
  refine Ends.ensuring first (fun outcome t h => (cleaned t h.2).mono ?_) fun _ h => h.1
  rintro _ u ⟨rfl, calls, provider⟩
  exact h.1.quiet calls provider

theorem Accountable.onProviderError (first : operation.Accountable refused)
    {handler : Failure → Operation α} {error : StorageError} (reports : Reports handler error) :
    (operation.onProviderError handler).Accountable refused :=
  fun s fair => Accounts.handleIf (first s fair) (fun _ provider => .inr provider) reports

theorem accountable_ofDisk {result : Except Disk.Fault α}
    (met : ∀ fault, result = .error fault → refused fault) :
    (ofDisk result).Accountable refused := by
  cases result with
  | ok a => exact accountable_pure a
  | error fault =>
    exact fun _ _ => ends_throw.mpr (accounts_error (Failure.blames_ofDisk (met fault rfl)) rfl rfl)

end

section
variable {refused : Disk.Fault → Prop}

theorem accounts_of_follows {s t : Session} (fair : s.provider.Fair) {call : Call}
    (other : call.lists = false) (concerned : s.provider.meet call = s.provider.exchange call)
    {outcome : Except Failure Json} (calls : t.calls = s.calls ++ [call])
    (follows : Follows (s.provider.exchange call) outcome t) : Accounts refused s outcome t := by
  obtain ⟨provider, told⟩ := follows
  have raised : s.provider.raised? [call] = (s.provider.exchange call).1 := by
    rw [Provider.raised?_singleton other, concerned]
  refine ⟨[call], ⟨calls, ?_⟩, ?_⟩
  · rw [provider, ← concerned]
    rfl
  · rw [raised]
    cases first : (s.provider.exchange call).1 with
    | none =>
      rw [first] at told
      obtain ⟨value, rfl⟩ := told
      rfl
    | some reason =>
      rw [first] at told
      obtain rfl := told
      obtain ⟨error, rfl⟩ := fair.exchange_raises first
      exact .call .itself

theorem accountable_request {request : Request} (other : request.kind ≠ .list) :
    (Operation.request request).Accountable refused := by
  intro s fair
  have apart : (Call.drive request).lists = false := decide_eq_false other
  apply (perform_exchanges (effects_answer request s)).mono
  exact fun outcome t h => accounts_of_follows fair apart rfl h.1 h.2

end

end Operation

end DriveDepot
