import DriveDepot.Proofs.Along
import DriveDepot.Proofs.Steady

/-!
What a call comes to depends on the drive and on the schedule of its faults alone. The calls that
were made therefore tell what the last of them raised.
-/

namespace DriveDepot

structure Provider where
  drive : Drive
  schedule : Schedule

def Session.provider (s : Session) : Provider := ⟨s.drive, s.schedule⟩

/-- A listing. What it raises ends the listing, or counts as a no. -/
def Call.lists (call : Call) : Bool := call.kind = .list

namespace Provider

/-- What a call comes to that no fault concerns: what it raises, if anything, and what it leaves
behind. -/
def settle (provider : Provider) (call : Call) : Option Reason × Provider :=
  let schedule := provider.schedule.count call.kind
  match call with
  | .drive request =>
    match provider.drive.answer request with
    | .ok (_, drive) => (none, ⟨drive, schedule⟩)
    | .error e => (some (.provider e), ⟨provider.drive, schedule⟩)
  | _ => (none, ⟨provider.drive, schedule⟩)

/-- What a call comes to that a fault may concern. -/
def exchange (provider : Provider) (call : Call) : Option Reason × Provider :=
  let schedule := provider.schedule.count call.kind
  match schedule.fault? call.kind with
  | none => provider.settle call
  | some fault =>
    match fault.outcome with
    | .answers _ => (none, ⟨provider.drive, schedule⟩)
    | .raises reason =>
      if fault.late then (some ((provider.settle call).1.getD reason), (provider.settle call).2)
      else (some reason, ⟨provider.drive, schedule⟩)

/-- No fault concerns the opening of a content, which fails only where there is no such file. -/
def meet (provider : Provider) : Call → Option Reason × Provider
  | .openMedia file =>
    (if (provider.drive.file? (.string file)).isSome then none else some (.provider .notFound),
      provider)
  | call => provider.exchange call

/-- The faults raise errors of the provider, the provider knows the account, and its pages and
chunks are not empty. -/
structure Fair (provider : Provider) : Prop where
  faults : ∀ fault ∈ provider.schedule.faults, ∃ error, fault.outcome = .raises (.provider error)
  account : ∃ fields, provider.drive.account = .object fields
  paged : provider.drive.pageSize ≠ some 0
  sized : 0 < provider.drive.chunkSize

/-- The provider after some calls. -/
def after (provider : Provider) (calls : List Call) : Provider :=
  calls.foldl (fun provider call => (provider.meet call).2) provider

/-- What the last of the calls raises, unless it is a listing. -/
def raised? (provider : Provider) (calls : List Call) : Option Reason := do
  let call ← calls.getLast?
  if call.lists then none else ((provider.after calls.dropLast).meet call).1

variable {provider : Provider} {calls : List Call}

@[simp] theorem after_nil (provider : Provider) : provider.after [] = provider := rfl

theorem after_append (provider : Provider) (calls more : List Call) :
    provider.after (calls ++ more) = (provider.after calls).after more := List.foldl_append

@[simp] theorem raised?_nil (provider : Provider) : provider.raised? [] = none := rfl

theorem raised?_singleton {call : Call} (other : call.lists = false) :
    provider.raised? [call] = (provider.meet call).1 := by
  simp [raised?, other]

theorem raised?_append (calls : List Call) {more : List Call} (some_more : more ≠ []) :
    provider.raised? (calls ++ more) = (provider.after calls).raised? more := by
  obtain rfl | ⟨first, last, rfl⟩ := more.eq_nil_or_concat
  · exact absurd rfl some_more
  · simp only [raised?, List.concat_eq_append, ← List.append_assoc, List.getLast?_concat,
      List.dropLast_concat, after_append]

theorem raised?_of_lists (lists : ∀ call ∈ calls, call.lists = true) :
    provider.raised? calls = none := by
  rw [raised?]
  cases last : calls.getLast? with
  | none => rfl
  | some call => simp [lists call (List.mem_of_getLast? last)]

/-- The account and the sizes of pages and chunks remain as they are. -/
def SameTerms (drive after : Drive) : Prop :=
  after.account = drive.account ∧ after.pageSize = drive.pageSize ∧
    after.chunkSize = drive.chunkSize

theorem sameTerms_answer {drive after : Drive} {request : Request} {value : Json}
    (answer : drive.answer request = .ok (value, after)) : SameTerms drive after := by
  cases request with
  | account => cases answer; exact ⟨rfl, rfl, rfl⟩
  | listFiles | listFolders => exact Drive.answer_listing_same rfl answer ▸ ⟨rfl, rfl, rfl⟩
  | insertFolder | insertFile =>
    rw [Drive.answer, Drive.insert] at answer
    split at answer <;> cases answer
    exact ⟨rfl, rfl, rfl⟩
  | rename =>
    rw [Drive.answer, Drive.rename] at answer
    split at answer <;> cases answer
    exact ⟨rfl, rfl, rfl⟩
  | delete =>
    rw [Drive.answer, Drive.delete] at answer
    split at answer <;> cases answer
    exact ⟨rfl, rfl, rfl⟩
  | removeParent =>
    rw [Drive.answer, Drive.removeParent] at answer
    split at answer
    · cases answer
    · split at answer <;> cases answer
      exact ⟨rfl, rfl, rfl⟩
  | addParent =>
    rw [Drive.answer, Drive.addParent] at answer
    split at answer <;> cases answer
    exact ⟨rfl, rfl, rfl⟩

theorem settle_raises {reason : Reason} {call : Call} (h : (provider.settle call).1 = some reason) :
    ∃ error, reason = .provider error := by
  cases call with
  | drive request =>
    simp only [settle] at h
    split at h
    · cases h
    · exact ⟨_, (Option.some.inj h).symm⟩
  | _ => cases h

namespace Fair

variable (fair : provider.Fair)
include fair

theorem raising : provider.schedule.Raising := fun fault member =>
  let ⟨error, outcome⟩ := fair.faults fault member
  ⟨.provider error, outcome⟩

theorem of_raises {failure : Failure} (raises : provider.schedule.Raises failure) :
    ∃ error, failure = .ofProvider error := by
  obtain ⟨fault, member, reason, outcome, rfl⟩ := raises
  obtain ⟨error, provider⟩ := fair.faults fault member
  exact ⟨error, by rw [Fault.Outcome.raises.inj (outcome.symm.trans provider)]; rfl⟩

theorem exchange_raises {reason : Reason} {call : Call}
    (h : (provider.exchange call).1 = some reason) : ∃ error, reason = .provider error := by
  rw [exchange] at h
  split at h
  · exact settle_raises h
  · rename_i fault met
    obtain ⟨error, raises⟩ := fair.faults fault (List.mem_of_find?_eq_some met)
    rw [raises] at h
    dsimp only at h
    split at h
    · cases settled : (provider.settle call).1 with
      | none => exact ⟨error, by simpa [settled] using h.symm⟩
      | some first =>
        obtain ⟨error, rfl⟩ := settle_raises settled
        exact ⟨error, by simpa [settled] using h.symm⟩
    · exact ⟨error, (Option.some.inj h).symm⟩

theorem of_same {other : Provider} (faults : other.schedule.faults = provider.schedule.faults)
    (same : SameTerms provider.drive other.drive) : other.Fair :=
  ⟨faults ▸ fair.faults, same.1 ▸ fair.account, same.2.1 ▸ fair.paged, same.2.2 ▸ fair.sized⟩

theorem settle (call : Call) : (provider.settle call).2.Fair := by
  cases call with
  | drive request =>
    simp only [Provider.settle]
    split
    · rename_i answer
      exact fair.of_same rfl (sameTerms_answer answer)
    · exact fair.of_same rfl ⟨rfl, rfl, rfl⟩
  | _ => exact fair.of_same rfl ⟨rfl, rfl, rfl⟩

theorem exchange (call : Call) : (provider.exchange call).2.Fair := by
  have counted : Fair ⟨provider.drive, provider.schedule.count call.kind⟩ :=
    fair.of_same rfl ⟨rfl, rfl, rfl⟩
  rw [Provider.exchange]
  split
  · exact fair.settle call
  · split
    · exact counted
    · split
      · exact fair.settle call
      · exact counted

theorem meet (call : Call) : (provider.meet call).2.Fair := by
  cases call with
  | openMedia => exact fair
  | _ => exact fair.exchange _

theorem after (calls : List Call) : (provider.after calls).Fair := by
  induction calls generalizing provider with
  | nil => exact fair
  | cons call rest ih => exact ih (fair.meet call)

end Fair

end Provider

namespace Session

structure Made (s : Session) (made : List Call) (t : Session) : Prop where
  calls : t.calls = s.calls ++ made
  provider : t.provider = s.provider.after made

variable {s t u : Session} {made more : List Call}

theorem Made.none (calls : t.calls = s.calls) (provider : t.provider = s.provider) :
    s.Made [] t := ⟨calls.trans (List.append_nil _).symm, provider⟩

theorem Made.trans (h : s.Made made t) (k : t.Made more u) : s.Made (made ++ more) u :=
  ⟨by rw [k.calls, h.calls, List.append_assoc],
    by rw [k.provider, h.provider, Provider.after_append]⟩

/-- Between the two sessions listings were made, and no other calls. -/
def Lists (s t : Session) : Prop := ∃ made, s.Made made t ∧ ∀ call ∈ made, call.lists = true

instance : IsPreorder Session Session.Lists where
  refl _ := ⟨[], .none rfl rfl, by simp⟩
  trans _ _ _ := fun ⟨made, h, listing⟩ ⟨more, k, listing'⟩ =>
    ⟨made ++ more, h.trans k, List.forall_mem_append.mpr ⟨listing, listing'⟩⟩

theorem Lists.none (calls : t.calls = s.calls) (provider : t.provider = s.provider) :
    s.Lists t := ⟨[], .none calls provider, by simp⟩

/-- The provider of the second session is fair if that of the first is. -/
def StaysFair (s t : Session) : Prop := s.provider.Fair → t.provider.Fair

instance : IsPreorder Session Session.StaysFair where
  refl _ := id
  trans _ _ _ first later := later ∘ first

end Session

namespace Operation

variable {s : Session}

theorem request_stays_fair (request : Request) :
    (Operation.request request).Along Session.StaysFair := by
  intro s
  refine ((request_asks request s).and (request_affects request s)).mono ?_
  rintro _ t ⟨asked, _, same | ⟨_, _, answer⟩⟩ fair
  · exact fair.of_same asked.faults ⟨congrArg _ same, congrArg _ same, congrArg _ same⟩
  · exact fair.of_same asked.faults (Provider.sameTerms_answer answer)

theorem listable_stays_fair : Listable Session.StaysFair :=
  ⟨fun _ _ _ => Ends.log fun _ => id, fun _ => request_stays_fair _⟩

/-- The outcome is what was raised, and the provider what was left behind. -/
def Follows (exchange : Option Reason × Provider) (outcome : Except Failure Json) (t : Session) :
    Prop :=
  t.provider = exchange.2 ∧
    match exchange.1 with
    | none => ∃ value, outcome = .ok value
    | some reason => outcome = .error (.raised reason [])

/-- Without a fault the call comes to what its effect comes to. -/
def Effects (call : Call) (effect : Operation Json) (s : Session) : Prop :=
  effect.Ends (s.called call) fun outcome t =>
    t.calls = (s.called call).calls ∧ Follows (s.provider.settle call) outcome t

theorem effects_answer (request : Request) (s : Session) :
    Effects (.drive request) (answer request) s := by
  apply (answer_ends request _).mono
  intro outcome t answered
  cases answered with
  | @done value drive answer =>
    have settled : s.provider.settle (.drive request) =
        (none, ⟨drive, s.schedule.count request.kind⟩) := by
      change s.drive.answer request = _ at answer
      simp [Provider.settle, Session.provider, Call.kind, answer]
    rw [settled]
    exact ⟨rfl, rfl, value, rfl⟩
  | @refused e answer =>
    have settled : s.provider.settle (.drive request) =
        (some (.provider e), ⟨s.drive, s.schedule.count request.kind⟩) := by
      change s.drive.answer request = _ at answer
      simp [Provider.settle, Session.provider, Call.kind, answer]
    rw [settled]
    exact ⟨rfl, rfl, rfl⟩

theorem perform_exchanges {call : Call} {effect : Operation Json}
    (effects : Effects call effect s) :
    (perform call effect).Ends s fun outcome t =>
      t.calls = s.calls ++ [call] ∧ Follows (s.provider.exchange call) outcome t := by
  rw [Operation.perform, record, ends_modify_bind, ends_modify_bind, ends_get_bind]
  change Ends (match (s.schedule.count call.kind).fault? call.kind with
    | none => effect | some fault => _) (s.called call) _
  rw [Provider.exchange]
  change effect.Ends _ _ at effects
  dsimp only
  generalize s.provider.settle call = settled at effects
  rw [show s.provider.schedule = s.schedule from rfl]
  obtain ⟨raised, left⟩ := settled
  cases (s.schedule.count call.kind).fault? call.kind with
  | none => exact effects
  | some fault =>
    cases outcome : fault.outcome with
    | answers value =>
      simp only [outcome]
      exact ends_pure.mpr ⟨rfl, rfl, value, rfl⟩
    | raises reason =>
      simp only [outcome]
      cases fault.late with
      | false => exact ends_throw.mpr ⟨rfl, rfl, rfl⟩
      | true =>
        simp only [↓reduceIte, discard_bind]
        refine effects.bind ?_ ?_
        · rintro value t ⟨calls, provider, told⟩
          refine ends_throw.mpr ⟨calls, provider, ?_⟩
          cases raised with
          | none => rfl
          | some => simp at told
        · rintro failure t ⟨calls, provider, told⟩
          refine ⟨calls, provider, ?_⟩
          cases raised with
          | none => simp at told
          | some first => exact told

theorem along_listing {request : Request} (lists : request.kind = .list) :
    (Operation.request request).Along Session.Lists := by
  intro s
  apply (perform_exchanges (effects_answer request s)).mono
  intro outcome t h
  exact ⟨[.drive request], ⟨h.1, h.2.1⟩, List.forall_mem_singleton.mpr (decide_eq_true lists)⟩

end Operation

end DriveDepot
