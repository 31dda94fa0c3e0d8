import DriveDepot.Proofs.Download
import DriveDepot.Proofs.Terminates
import Mathlib.Data.List.Find

/-!
Two loops go on for as long as the answers say so: the one over the pages of a listing and the one
over the chunks of a download. Each is run for a number of turns only. The number is high enough:
a loop that has not stopped by then never does.
-/

namespace DriveDepot

section Loop
variable {σ : Type} {turn : σ → Option σ} {s t : σ}

/-- From the state on, the loop stops in one of its next `n` turns. -/
def StopsWithin (turn : σ → Option σ) : (n : Nat) → σ → Prop
  | 0, _ => False
  | n + 1, s => ∀ t, turn s = some t → StopsWithin turn n t

def Stops (turn : σ → Option σ) (s : σ) : Prop := ∃ n, StopsWithin turn n s

theorem stopsWithin_of_last (last : turn s = none) (n : Nat) : StopsWithin turn (n + 1) s := by
  intro t more
  cases last.symm.trans more

theorem StopsWithin.mono {n m : Nat} (h : StopsWithin turn n s) (le : n ≤ m) :
    StopsWithin turn m s := by
  induction n generalizing s m with
  | zero => exact absurd h id
  | succ n ih =>
    obtain _ | m := m
    · omega
    · exact fun t more => ih (h t more) (by omega)

theorem Stops.of_turn (h : Stops turn s) (more : turn s = some t) : Stops turn t := by
  obtain ⟨_ | n, h⟩ := h
  · exact absurd h id
  · exact ⟨n, h t more⟩

/-- What each turn lowers bounds the turns. -/
theorem stopsWithin_of_lowers {I : σ → Prop} (measure : σ → Nat)
    (lowers : ∀ s t, I s → turn s = some t → I t ∧ measure t < measure s) {n : Nat} (held : I s)
    (below : measure s < n) : StopsWithin turn n s := by
  induction n generalizing s with
  | zero => omega
  | succ n ih =>
    intro t more
    obtain ⟨held', less⟩ := lowers s t held more
    exact ih held' (by omega)

/-- What each turn comes back to is never left. -/
theorem not_stops_of_returns {I : σ → Prop} (returns : ∀ s, I s → ∃ t, turn s = some t ∧ I t)
    (held : I s) : ¬ Stops turn s := by
  rintro ⟨n, h⟩
  induction n generalizing s with
  | zero => exact h
  | succ n ih =>
    obtain ⟨t, more, held'⟩ := returns s held
    exact ih held' (h t more)

/-- Once the turns of `phase` are over, `n` more are enough for a loop that stops. -/
theorem Stops.within {I : σ → Prop} (phase : σ → Nat) {n : Nat}
    (passes : ∀ s t, I s → turn s = some t → I t ∧ phase t = phase s - 1)
    (after : ∀ s, I s → phase s = 0 → Stops turn s → StopsWithin turn (n + 1) s) (held : I s)
    (h : Stops turn s) : StopsWithin turn (phase s + n + 1) s := by
  induction left : phase s generalizing s with
  | zero => exact (after s held left h).mono (by omega)
  | succ k ih =>
    intro t more
    obtain ⟨held', less⟩ := passes s t held more
    exact (ih held' (h.of_turn more) (by omega)).mono (by omega)

/-- What a loop comes to that is run for at most so many turns. -/
structure Unrolls (turn : σ → Option σ) (run : Nat → σ → Except Failure α × Session) : Prop where
  exhausted : ∀ s, (run 0 s).1 = .error .endless
  onward : ∀ s t, turn s = some t → ∀ n, run (n + 1) s = run n t
  last : ∀ s, turn s = none → ∃ result, result.1 ≠ .error .endless ∧ ∀ n, run (n + 1) s = result

variable {run : Nat → σ → Except Failure α × Session}

/-- Once the loop stops, a higher bound changes nothing. -/
theorem Unrolls.of_stopsWithin (h : Unrolls turn run) {n : Nat} (stops : StopsWithin turn n s) :
    ∃ result, result.1 ≠ .error .endless ∧ ∀ bound ≥ n, run bound s = result := by
  induction n generalizing s with
  | zero => exact absurd stops id
  | succ n ih =>
    have beyond {bound : Nat} (enough : bound ≥ n + 1) : ∃ k ≥ n, bound = k + 1 :=
      ⟨bound - 1, by omega, by omega⟩
    cases more : turn s with
    | none =>
      obtain ⟨result, ended, same⟩ := h.last s more
      refine ⟨result, ended, fun bound enough => ?_⟩
      obtain ⟨k, _, rfl⟩ := beyond enough
      exact same k
    | some t =>
      obtain ⟨result, ended, same⟩ := ih (stops t more)
      refine ⟨result, ended, fun bound enough => ?_⟩
      obtain ⟨k, within, rfl⟩ := beyond enough
      exact (h.onward s t more k).trans (same k within)

theorem Unrolls.of_not_stopsWithin (h : Unrolls turn run) {n : Nat}
    (goes : ¬ StopsWithin turn n s) : (run n s).1 = .error .endless := by
  induction n generalizing s with
  | zero => exact h.exhausted s
  | succ n ih =>
    cases more : turn s with
    | none => exact absurd (stopsWithin_of_last more n) goes
    | some t =>
      rw [h.onward s t more]
      refine ih fun stops => goes fun u more' => ?_
      cases more.symm.trans more'
      exact stops

/-- With a bound that is high enough for every loop that stops, what the loop comes to is what it
comes to without a bound. -/
theorem Unrolls.bounded (h : Unrolls turn run) {bound : Nat}
    (enough : Stops turn s → StopsWithin turn bound s) :
    (Stops turn s → (run bound s).1 ≠ .error .endless ∧ ∀ more ≥ bound, run more s = run bound s) ∧
      (¬ Stops turn s → ∀ more, (run more s).1 = .error .endless) := by
  constructor
  · intro stops
    obtain ⟨result, ended, same⟩ := h.of_stopsWithin (enough stops)
    rw [same bound (le_refl _)]
    exact ⟨ended, same⟩
  · exact fun goes more => h.of_not_stopsWithin fun stops => goes ⟨more, stops⟩

end Loop

namespace Schedule

/-- How many executions of the call are left until the last that a fault of it numbers. -/
def left (schedule : Schedule) (call : CallKind) : Nat :=
  schedule.lastNumber call - schedule.executed.count call

theorem lastNumber_count (schedule : Schedule) (call other : CallKind) :
    (schedule.count other).lastNumber call = schedule.lastNumber call := rfl

theorem left_count (schedule : Schedule) (call : CallKind) :
    (schedule.count call).left call = schedule.left call - 1 := by
  have counted : (schedule.count call).executed.count call = schedule.executed.count call + 1 :=
    List.count_cons_self
  rw [left, left, counted, lastNumber_count]
  omega

theorem le_lastNumber {schedule : Schedule} {fault : Fault} (member : fault ∈ schedule.faults)
    {n : Int} (numbered : fault.nth = some n) : n ≤ schedule.lastNumber fault.call := by
  rw [lastNumber]
  generalize schedule.faults = faults at member
  induction faults with
  | nil => cases member
  | cons first rest ih =>
    rw [List.filter_cons]
    obtain rfl | member := List.mem_cons.mp member
    · rw [if_pos (beq_self_eq_true _), List.foldr_cons, numbered]
      simp only [Option.getD_some]
      omega
    · have below := ih member
      split
      · rw [List.foldr_cons]
        omega
      · exact below

/-- When none are left, each execution meets the same fault. -/
theorem next?_count_of_left {schedule : Schedule} {call : CallKind}
    (settled : schedule.left call = 0) :
    (schedule.count call).next? call = schedule.next? call := by
  rw [next?_eq_faultAt?, next?_eq_faultAt?, faultAt?, faultAt?, count, List.count_cons_self]
  refine List.find?_congr ?_
  intro fault member
  cases concerned : fault.call == call with
  | false => rfl
  | true =>
    obtain rfl := eq_of_beq concerned
    cases numbered : fault.nth with
    | none => rfl
    | some n =>
      have : n ≤ schedule.lastNumber fault.call := le_lastNumber member numbered
      rw [left] at settled
      simp only [Bool.true_and, Option.all_some]
      rw [beq_eq_false_iff_ne.mpr (by omega), beq_eq_false_iff_ne.mpr (by omega)]

/-- The numbered faults of the call are behind, and each execution meets `met`. -/
structure Settled (schedule : Schedule) (call : CallKind) (met : Option Fault) : Prop where
  left : schedule.left call = 0
  met : schedule.next? call = met

theorem Settled.count {schedule : Schedule} {call : CallKind} {met : Option Fault}
    (h : schedule.Settled call met) : (schedule.count call).Settled call met where
  left := by rw [left_count, h.left]
  met := by rw [next?_count_of_left h.left, h.met]

end Schedule

namespace Search

open Operation

/-- The files that an answer tells and the token of a further page that it names. -/
def furtherPage (response : Json) : Option (List FoundFile × Json) := do
  let files ← (filesOf response).toOption
  let next := ((← (response.optional "nextPageToken").toOption)).getD .null
  if next.isNothing then none else some (files, next)

/-- Asks for the page of a token. The loop goes on with the token of a further page. -/
def turn (query : String) :
    List FoundFile × Json × Session → Option (List FoundFile × Json × Session)
  | (found, token, s) =>
    match runOn (request (.listFiles query token)) s with
    | (.ok response, t) =>
      (furtherPage response).map fun (files, next) => (found ++ files, next, t)
    | (.error _, _) => none

theorem furtherPage_listing (files : List StoredFile) (next : Option Nat) :
    furtherPage (Drive.listing files next) =
      next.map fun first => (files.map (·.found), Drive.pageToken first) := by
  rw [furtherPage, filesOf_listing, optional_listing]
  cases next with
  | none => rfl
  | some position => simp [Except.toOption, isNothing_pageToken]

variable {query : String} {s t : Session} {found : List FoundFile} {token : Json}

theorem furtherPage_eq_some {response next : Json} {files : List FoundFile}
    (h : furtherPage response = some (files, next)) :
    filesOf response = .ok files ∧
      ∃ named, response.optional "nextPageToken" = .ok named ∧ named.getD .null = next ∧
        next.isNothing = false := by
  rw [furtherPage] at h
  cases read : filesOf response with
  | error => simp [read, Except.toOption] at h
  | ok files =>
    cases token : response.optional "nextPageToken" with
    | error => simp [read, token, Except.toOption] at h
    | ok named =>
      simp [read, token, Except.toOption] at h
      obtain ⟨further, rfl, rfl⟩ := h
      exact ⟨rfl, named, rfl, rfl, further⟩

theorem page_of_answer {response : Json}
    (asked : runOn (request (.listFiles query token)) s = (.ok response, t)) :
    runOn (page query found token) s = (.ok (some response), t) := by
  rw [page, onProviderError, handleIf, runOn_tryCatch, map_eq_pure_bind, runOn_bind, asked]
  rfl

theorem page_of_failure {failure : Failure}
    (asked : runOn (request (.listFiles query token)) s = (.error failure, t)) :
    (page query found token).Ends s fun outcome _ =>
      outcome = .ok none ∨ outcome = .error failure := by
  have failed : (some <$> request (.listFiles query token)).Ends s fun outcome _ =>
      outcome = .error failure := by
    rw [Ends, map_eq_pure_bind, runOn_bind, asked]
  refine failed.handleIf (by rintro _ _ ⟨⟩) ?_ fun _ _ _ same => .inr same
  exact fun _ _ _ _ => Ends.log_bind fun _ => .inl rfl

theorem collect_of_turn {after : List FoundFile × Json × Session}
    (more : turn query (found, token, s) = some after) (bound : Nat) :
    runOn (collect query (bound + 1) found token) s =
      runOn (collect query bound after.1 after.2.1) after.2.2 := by
  rw [turn] at more
  split at more
  · rename_i response u asked
    obtain ⟨⟨files, next⟩, further, same⟩ := Option.map_eq_some_iff.mp more
    cases same
    obtain ⟨read, named, optional, rfl, further⟩ := furtherPage_eq_some further
    rw [collect, runOn_bind, page_of_answer asked]
    simp [ofMishap, read, optional, further]
  · cases more

theorem collect_of_last (last : turn query (found, token, s) = none) :
    ∃ result, result.1 ≠ .error .endless ∧
      ∀ bound, runOn (collect query (bound + 1) found token) s = result := by
  rw [turn] at last
  split at last
  · rename_i response u asked
    have unnamed := Option.map_eq_none_iff.mp last
    have paged := @page_of_answer query s u found token response asked
    cases read : filesOf response with
    | error mishap =>
      refine ⟨(.error (.ofMishap mishap), u), by simp [Failure.ofMishap], fun bound => ?_⟩
      rw [collect, runOn_bind, paged]
      simp [ofMishap, read]
    | ok files =>
      cases optional : response.optional "nextPageToken" with
      | error mishap =>
        refine ⟨(.error (.ofMishap mishap), u), by simp [Failure.ofMishap], fun bound => ?_⟩
        rw [collect, runOn_bind, paged]
        simp [ofMishap, read, optional]
      | ok named =>
        have last : (named.getD .null).isNothing = true := by
          simpa [furtherPage, read, optional, Except.toOption] using unnamed
        refine ⟨(.ok (found ++ files), u), by simp, fun bound => ?_⟩
        rw [collect, runOn_bind, paged]
        simp [ofMishap, read, optional, last]
  · rename_i failure u asked
    have raised : failure ≠ .endless := (terminates_request _ s).of_eq asked failure rfl
    have paged := @page_of_failure query s u found token failure asked
    rw [Ends] at paged
    cases run : runOn (page query found token) s with
    | mk outcome v =>
      rw [run] at paged
      obtain rfl | rfl := paged
      · exact ⟨(.ok found, v), by simp, fun bound => by rw [collect, runOn_bind, run]; rfl⟩
      · exact ⟨(.error failure, v), by simpa using raised,
          fun bound => by rw [collect, runOn_bind, run]⟩

theorem unrolls_collect (query : String) :
    Unrolls (turn query) fun bound at_ => runOn (collect query bound at_.1 at_.2.1) at_.2.2 where
  exhausted _ := rfl
  onward _ _ more := collect_of_turn more
  last _ last := collect_of_last last

/-- What asking for a page is answered with, unless that fails. -/
def response? (query : String) (token : Json) (s : Session) : Option Json :=
  match s.schedule.next? .list with
  | none => (s.drive.list query token).toOption
  | some fault =>
    match fault.outcome with
    | .answers value => some value
    | .raises _ => none

theorem request_responds (query : String) (token : Json) (s : Session) :
    (request (.listFiles query token)).Ends s fun outcome t =>
      (t.drive = s.drive ∧ t.schedule = s.schedule.count .list) ∧
        outcome.toOption = response? query token s := by
  have answers {outcome : Except Failure Json} {t : Session}
      (h : Answered (.listFiles query token) (s.called (.drive (.listFiles query token))) outcome t) :
      (t.drive = s.drive ∧ t.schedule = s.schedule.count .list) ∧
        outcome.toOption = (s.drive.list query token).toOption := by
    have same := answer_listFiles s.drive query token
    cases h with
    | done answer =>
      cases listed : s.drive.list query token with
      | error e => cases (listed ▸ same).symm.trans answer
      | ok response =>
        cases (listed ▸ same).symm.trans answer
        exact ⟨⟨rfl, rfl⟩, rfl⟩
    | refused answer =>
      cases listed : s.drive.list query token with
      | error e => exact ⟨⟨rfl, rfl⟩, rfl⟩
      | ok response => cases (listed ▸ same).symm.trans answer
  apply (request_met (.listFiles query token) s).mono
  intro outcome t h
  rw [response?]
  change match s.schedule.next? .list with | none => _ | some fault => _ at h
  cases met : s.schedule.next? .list with
  | none =>
    rw [met] at h
    exact answers h
  | some fault =>
    rw [met] at h
    cases h with
    | answered outcome => exact ⟨⟨rfl, rfl⟩, by simp only [outcome]; rfl⟩
    | raised outcome => exact ⟨⟨rfl, rfl⟩, by simp only [outcome]; rfl⟩
    | raisedLate outcome effect => exact ⟨(answers effect).1, by simp only [outcome]; rfl⟩
    | failed effect outcome => exact ⟨(answers effect).1, by simp only [outcome]; rfl⟩

theorem turn_eq (query : String) (found : List FoundFile) (token : Json) (s : Session) :
    ∃ t, t.drive = s.drive ∧ t.schedule = s.schedule.count .list ∧
      turn query (found, token, s) = ((response? query token s).bind furtherPage).map
        fun (files, next) => (found ++ files, next, t) := by
  have responds := request_responds query token s
  rw [Ends] at responds
  rw [turn]
  cases asked : runOn (request (.listFiles query token)) s with
  | mk outcome t =>
    rw [asked] at responds
    obtain ⟨⟨drive, schedule⟩, response⟩ := responds
    refine ⟨t, drive, schedule, ?_⟩
    rw [← response]
    cases outcome <;> rfl

theorem turn_keeps {after : List FoundFile × Json × Session}
    (more : turn query (found, token, s) = some after) :
    after.2.2.drive = s.drive ∧ after.2.2.schedule = s.schedule.count .list := by
  obtain ⟨u, drive, schedule, same⟩ := turn_eq query found token s
  obtain ⟨_, _, same⟩ := Option.map_eq_some_iff.mp (same.symm.trans more)
  cases same
  exact ⟨drive, schedule⟩

/-- A fault that answers does so again and again. -/
theorem stopsWithin_of_fault {fault : Fault} (settled : s.schedule.Settled .list (some fault))
    (stops : Stops (turn query) (found, token, s)) (n : Nat) :
    StopsWithin (turn query) (n + 1) (found, token, s) := by
  have turned (found : List FoundFile) (token : Json) {s : Session}
      (settled : s.schedule.Settled .list (some fault)) :
      ∃ t : Session, t.schedule.Settled .list (some fault) ∧ turn query (found, token, s) =
        ((match fault.outcome with | .answers value => some value | .raises _ => none).bind
          furtherPage).map fun (files, next) => (found ++ files, next, t) := by
    obtain ⟨t, _, counted, eq⟩ := turn_eq query found token s
    rw [response?, settled.met] at eq
    exact ⟨t, counted ▸ settled.count, eq⟩
  cases named : (match fault.outcome with
    | .answers value => some value | .raises _ => none).bind furtherPage with
  | none =>
    obtain ⟨t, _, eq⟩ := turned found token settled
    rw [named] at eq
    exact stopsWithin_of_last eq n
  | some further =>
    refine absurd stops (not_stops_of_returns
      (I := fun at_ => at_.2.2.schedule.Settled .list (some fault)) ?_ settled)
    rintro ⟨found, token, s⟩ settled
    obtain ⟨t, settled', eq⟩ := turned found token settled
    rw [named] at eq
    exact ⟨_, eq, settled'⟩

/-- The drive answers, and goes on answering. -/
def Quiet (drive : Drive) (s : Session) : Prop :=
  s.drive = drive ∧ s.schedule.Settled .list none

theorem page_next {drive : Drive} {size : Nat} (paging : drive.pageSize = some size)
    (matching : List StoredFile) (token : Json) : (drive.page matching token).2 =
      if Drive.pageStart token + size < matching.length then some (Drive.pageStart token + size)
      else none := by
  rw [Drive.page, paging]

theorem turn_of_drive {drive : Drive} {clauses : List Clause}
    (readable : Query.ofText? query = some clauses) (found : List FoundFile) (token : Json)
    (quiet : Quiet drive s) :
    ∃ t files, Quiet drive t ∧ turn query (found, token, s) =
      (drive.page (drive.select clauses) token).2.map
        fun first => (found ++ files, Drive.pageToken first, t) := by
  obtain ⟨t, same, counted, eq⟩ := turn_eq query found token s
  refine ⟨t, (drive.page (drive.select clauses) token).1.map (·.found),
    ⟨same.trans quiet.1, counted ▸ quiet.2.count⟩, ?_⟩
  rw [eq, response?, quiet.2.met, quiet.1]
  simp only [list_of_readable _ readable, Except.toOption, Option.bind_some, furtherPage_listing,
    Option.map_map]
  rfl

/-- The position of the pages rises, unless they are empty and come again and again. -/
theorem stopsWithin_of_drive {drive : Drive} (quiet : Quiet drive s)
    (stops : Stops (turn query) (found, token, s)) :
    StopsWithin (turn query) (drive.files.length + 1) (found, token, s) := by
  cases readable : Query.ofText? query with
  | none =>
    obtain ⟨t, _, _, eq⟩ := turn_eq query found token s
    rw [response?, quiet.2.met, list_of_unreadable _ readable] at eq
    exact stopsWithin_of_last eq _
  | some clauses =>
    have fewer : (drive.select clauses).length ≤ drive.files.length := List.length_filter_le _ _
    obtain ⟨t, files, quiet', eq⟩ := turn_of_drive readable found token quiet
    cases paging : drive.pageSize with
    | none =>
      rw [Drive.page, paging] at eq
      exact stopsWithin_of_last eq _
    | some size =>
      by_cases sized : size = 0
      · subst sized
        by_cases further : Drive.pageStart token < (drive.select clauses).length
        · refine absurd stops (not_stops_of_returns (I := fun at_ =>
            Quiet drive at_.2.2 ∧ Drive.pageStart at_.2.1 = Drive.pageStart token)
            ?_ ⟨quiet, rfl⟩)
          rintro ⟨found, next, u⟩ ⟨quiet, same⟩
          obtain ⟨v, files, quiet', eq⟩ := turn_of_drive readable found next quiet
          simp only at same
          rw [page_next paging, if_pos (by omega)] at eq
          exact ⟨_, eq, quiet', by rw [Drive.pageStart_pageToken]; exact same⟩
        · rw [page_next paging, if_neg (by omega)] at eq
          exact stopsWithin_of_last eq _
      · refine stopsWithin_of_lowers (I := fun at_ => Quiet drive at_.2.2)
          (fun at_ => (drive.select clauses).length - Drive.pageStart at_.2.1) ?_ quiet
          (by simp only; omega)
        rintro ⟨found, token, s⟩ _ quiet more
        obtain ⟨v, files, quiet', eq⟩ := turn_of_drive readable found token quiet
        rw [page_next paging] at eq
        obtain ⟨first, further, same⟩ := Option.map_eq_some_iff.mp (eq.symm.trans more)
        cases same
        obtain ⟨further, first⟩ := Option.ite_none_right_eq_some.mp further
        cases first
        refine ⟨quiet', ?_⟩
        simp only [Drive.pageStart_pageToken]
        omega

/-- A listing that comes to an end does so within the bound on its pages. -/
theorem stopsWithin_pageBound (stops : Stops (turn query) (found, token, s)) :
    StopsWithin (turn query) (pageBound s) (found, token, s) := by
  have within := stops.within (n := s.drive.files.length)
    (I := fun at_ => at_.2.2.drive = s.drive) (fun at_ => at_.2.2.schedule.left .list) ?_ ?_ rfl
  · refine within.mono ?_
    simp only [Schedule.left, pageBound]
    omega
  · rintro ⟨_, _, u⟩ _ same more
    obtain ⟨drive, schedule⟩ := turn_keeps more
    exact ⟨drive.trans same, by simp only [schedule, Schedule.left_count]⟩
  · rintro ⟨found, token, u⟩ same settled stops
    cases met : u.schedule.next? .list with
    | none => exact same ▸ stopsWithin_of_drive ⟨rfl, settled, met⟩ stops
    | some fault => exact stopsWithin_of_fault ⟨settled, met⟩ stops _

/-- The pages of a search come to an end: one of them names no further page, or cannot be had. -/
def PagesEnd (folder name : Option String) (s : Session) : Prop :=
  Stops (turn (Query.text (Query.ofFiles folder name))) ([], .null, s)

theorem runOn_files (folder name : Option String) (s : Session) :
    runOn (files folder name) s =
      runOn (collect (Query.text (Query.ofFiles folder name)) (pageBound s) [] .null) s := by
  rw [files, runOn_bind, runOn_get]

/-- What a search comes to is what it comes to without a bound on its pages. -/
theorem files_unbounded (folder name : Option String) (s : Session) :
    (PagesEnd folder name s → (runOn (files folder name) s).1 ≠ .error .endless ∧
      ∀ bound ≥ pageBound s,
        runOn (collect (Query.text (Query.ofFiles folder name)) bound [] .null) s =
          runOn (files folder name) s) ∧
    (¬ PagesEnd folder name s → ∀ bound,
      (runOn (collect (Query.text (Query.ofFiles folder name)) bound [] .null) s).1 =
        .error .endless) := by
  rw [runOn_files, PagesEnd]
  generalize Query.text (Query.ofFiles folder name) = query
  exact (unrolls_collect query).bounded stopsWithin_pageBound

theorem files_endless_iff (folder name : Option String) (s : Session) :
    (runOn (files folder name) s).1 = .error .endless ↔ ¬ PagesEnd folder name s := by
  obtain ⟨ended, goes⟩ := files_unbounded folder name s
  rw [runOn_files] at ended ⊢
  exact ⟨fun endless ends => (ended ends).1 endless, fun never => goes never (pageBound s)⟩

end Search

namespace Repository

open Operation

/-- An answer says that more is to come. -/
def tellsMore (answer : Json) : Bool := isLast answer matches .ok false

/-- Fetches a chunk. The loop goes on with the next one if there is more to come. -/
def chunkTurn (content : Bytes) (s : Session) : Option Session :=
  match runOn (perform .nextChunk (writeChunk content)) s with
  | (.ok answer, t) => if tellsMore answer then some t else none
  | (.error _, _) => none

variable {content : Bytes} {s t : Session}

theorem terminates_chunk (content : Bytes) :
    (perform .nextChunk (writeChunk content)).Terminates :=
  failsWith_perform (fun _ => nofun) <|
    failsWith_get.bind fun _ => (failsWith_modify _).bind fun _ => failsWith_pure _

theorem fetchChunks_of_turn (more : chunkTurn content s = some t) (bound : Nat) :
    runOn (fetchChunks content (bound + 1)) s = runOn (fetchChunks content bound) t := by
  rw [chunkTurn] at more
  split at more
  · rename_i answer u fetched
    obtain ⟨told, same⟩ := Option.ite_none_right_eq_some.mp more
    cases same
    rw [tellsMore] at told
    split at told
    · rename_i last
      rw [fetchChunks, runOn_bind, fetched]
      simp [ofMishap, last]
    · cases told
  · cases more

theorem fetchChunks_of_last (last : chunkTurn content s = none) :
    ∃ result, result.1 ≠ .error .endless ∧
      ∀ bound, runOn (fetchChunks content (bound + 1)) s = result := by
  rw [chunkTurn] at last
  cases fetched : runOn (perform .nextChunk (writeChunk content)) s with
  | mk outcome t =>
    rw [fetched] at last
    cases outcome with
    | error failure =>
      have raised : failure ≠ .endless := (terminates_chunk content s).of_eq fetched failure rfl
      refine ⟨(.error failure, t), by simpa using raised, fun bound => ?_⟩
      rw [fetchChunks, runOn_bind, fetched]
    | ok answer =>
      cases told : isLast answer with
      | error mishap =>
        refine ⟨(.error (.ofMishap mishap), t), by simp [Failure.ofMishap], fun bound => ?_⟩
        rw [fetchChunks, runOn_bind, fetched]
        simp [ofMishap, told]
      | ok ended =>
        cases ended with
        | false => simp [tellsMore, told] at last
        | true =>
          refine ⟨(.ok (), t), by simp, fun bound => ?_⟩
          rw [fetchChunks, runOn_bind, fetched]
          simp [ofMishap, told]

theorem unrolls_fetchChunks (content : Bytes) :
    Unrolls (chunkTurn content) fun bound s => runOn (fetchChunks content bound) s where
  exhausted _ := rfl
  onward _ _ more := fetchChunks_of_turn more
  last _ last := fetchChunks_of_last last

/-- What fetching a chunk is answered with, unless that fails, when it leaves the disk. -/
def chunkResponse? (content : Bytes) (s : Session) (disk : Disk) : Option Json :=
  match s.schedule.next? .nextChunk with
  | none => some (.array [.null, .bool (content.length ≤ disk.staged.length)])
  | some fault =>
    match fault.outcome with
    | .answers value => some value
    | .raises _ => none

theorem chunk_responds (content : Bytes) (s : Session) :
    (perform .nextChunk (writeChunk content)).Ends s fun outcome t =>
      (t.drive = s.drive ∧ t.schedule = s.schedule.count .nextChunk ∧
        (s.schedule.next? .nextChunk = none → t.disk = (chunked s content).disk)) ∧
        outcome.toOption = chunkResponse? content s t.disk := by
  have effect : (writeChunk content).Ends (s.called .nextChunk) fun outcome t =>
      t = chunked s content ∧
        outcome = .ok (.array [.null, .bool (content.length ≤ t.disk.staged.length)]) := ⟨rfl, rfl⟩
  apply (Ends.perform_met effect).mono
  intro outcome t h
  rw [chunkResponse?]
  change match s.schedule.next? .nextChunk with | none => _ | some fault => _ at h
  cases met : s.schedule.next? .nextChunk with
  | none =>
    rw [met] at h
    obtain ⟨rfl, rfl⟩ := h
    exact ⟨⟨rfl, rfl, fun _ => rfl⟩, rfl⟩
  | some fault =>
    rw [met] at h
    cases h with
    | answered outcome => exact ⟨⟨rfl, rfl, nofun⟩, by simp only [outcome]; rfl⟩
    | raised outcome => exact ⟨⟨rfl, rfl, nofun⟩, by simp only [outcome]; rfl⟩
    | raisedLate outcome effect =>
      obtain ⟨rfl, _⟩ := effect
      exact ⟨⟨rfl, rfl, nofun⟩, by simp only [outcome]; rfl⟩
    | failed effect => cases effect.2

theorem chunkTurn_eq (content : Bytes) (s : Session) :
    ∃ t, (t.drive = s.drive ∧ t.schedule = s.schedule.count .nextChunk ∧
        (s.schedule.next? .nextChunk = none → t.disk = (chunked s content).disk)) ∧
      chunkTurn content s =
        if (chunkResponse? content s t.disk).any tellsMore then some t else none := by
  have responds := chunk_responds content s
  rw [Ends] at responds
  rw [chunkTurn]
  cases fetched : runOn (perform .nextChunk (writeChunk content)) s with
  | mk outcome t =>
    rw [fetched] at responds
    refine ⟨t, responds.1, ?_⟩
    rw [← responds.2]
    cases outcome <;> rfl

theorem chunkTurn_keeps (more : chunkTurn content s = some t) :
    t.drive = s.drive ∧ t.schedule = s.schedule.count .nextChunk := by
  obtain ⟨u, ⟨drive, schedule, _⟩, eq⟩ := chunkTurn_eq content s
  obtain ⟨_, same⟩ := Option.ite_none_right_eq_some.mp (eq.symm.trans more)
  cases same
  exact ⟨drive, schedule⟩

theorem chunkStopsWithin_of_fault {fault : Fault}
    (settled : s.schedule.Settled .nextChunk (some fault))
    (stops : Stops (chunkTurn content) s) (n : Nat) :
    StopsWithin (chunkTurn content) (n + 1) s := by
  have turned {s : Session} (settled : s.schedule.Settled .nextChunk (some fault)) :
      ∃ t : Session, t.schedule.Settled .nextChunk (some fault) ∧ chunkTurn content s =
        if (match fault.outcome with | .answers value => some value | .raises _ => none).any
          tellsMore then some t else none := by
    obtain ⟨t, ⟨_, counted, _⟩, eq⟩ := chunkTurn_eq content s
    rw [chunkResponse?, settled.met] at eq
    exact ⟨t, counted ▸ settled.count, eq⟩
  cases more : (match fault.outcome with
    | .answers value => some value | .raises _ => none).any tellsMore with
  | false =>
    obtain ⟨t, _, eq⟩ := turned settled
    rw [more] at eq
    exact stopsWithin_of_last eq n
  | true =>
    refine absurd stops (not_stops_of_returns
      (I := fun at_ => at_.schedule.Settled .nextChunk (some fault)) ?_ settled)
    intro s settled
    obtain ⟨t, settled', eq⟩ := turned settled
    rw [more] at eq
    exact ⟨t, eq, settled'⟩

theorem disk_chunked_of_empty (empty : s.disk.scratch = none ∨ s.drive.chunkSize = 0) :
    (chunked s content).disk = s.disk := by
  change s.disk.append ((content.drop s.disk.staged.length).take s.drive.chunkSize) = s.disk
  obtain none | empty := empty
  · rw [Disk.append, none, Option.map_none, ← none]
  · rw [empty, List.take_zero, Disk.append]
    simp

theorem staged_chunked (begun : s.disk.scratch ≠ none) :
    (chunked s content).disk.scratch ≠ none ∧ (chunked s content).disk.staged.length =
      s.disk.staged.length + min s.drive.chunkSize (content.length - s.disk.staged.length) := by
  obtain ⟨held, scratch⟩ := Option.ne_none_iff_exists'.mp begun
  simp [chunked, Disk.append, Disk.staged, scratch]

/-- Without a fault each chunk brings a part of the content, unless chunks are empty. -/
theorem chunkStopsWithin_of_drive (settled : s.schedule.Settled .nextChunk none)
    (stops : Stops (chunkTurn content) s) :
    StopsWithin (chunkTurn content) (content.length + 1) s := by
  have turned {u : Session} (settled : u.schedule.Settled .nextChunk none) :
      ∃ t : Session, t.drive = u.drive ∧ t.schedule.Settled .nextChunk none ∧
        t.disk = (chunked u content).disk ∧ chunkTurn content u =
          if content.length ≤ t.disk.staged.length then none else some t := by
    obtain ⟨t, ⟨drive, counted, disk⟩, eq⟩ := chunkTurn_eq content u
    refine ⟨t, drive, counted ▸ settled.count, disk settled.met, ?_⟩
    rw [eq, chunkResponse?, settled.met]
    by_cases complete : content.length ≤ t.disk.staged.length <;>
      simp [tellsMore, isLast_array, complete]
  by_cases empty : s.disk.scratch = none ∨ s.drive.chunkSize = 0
  · by_cases complete : content.length ≤ s.disk.staged.length
    · obtain ⟨t, _, _, disk, eq⟩ := turned settled
      rw [disk, disk_chunked_of_empty empty, if_pos complete] at eq
      exact stopsWithin_of_last eq _
    · refine absurd stops (not_stops_of_returns (I := fun at_ => (at_.drive = s.drive ∧
        at_.disk = s.disk) ∧ at_.schedule.Settled .nextChunk none) ?_ ⟨⟨rfl, rfl⟩, settled⟩)
      rintro u ⟨⟨drive, same⟩, settled⟩
      obtain ⟨t, drive', settled', disk, eq⟩ := turned settled
      rw [disk_chunked_of_empty (by rwa [drive, same]), same] at disk
      rw [disk, if_neg complete] at eq
      exact ⟨t, eq, ⟨drive'.trans drive, disk⟩, settled'⟩
  · obtain ⟨begun, sized⟩ := not_or.mp empty
    refine stopsWithin_of_lowers (I := fun at_ => (at_.drive = s.drive ∧
      at_.disk.scratch ≠ none) ∧ at_.schedule.Settled .nextChunk none)
      (fun at_ => content.length - at_.disk.staged.length) ?_ ⟨⟨rfl, begun⟩, settled⟩ (by omega)
    rintro u v ⟨⟨drive, begun⟩, settled⟩ more
    obtain ⟨t, drive', settled', disk, eq⟩ := turned settled
    obtain ⟨incomplete, same⟩ := Option.ite_none_left_eq_some.mp (eq.symm.trans more)
    cases same
    obtain ⟨begun', staged⟩ := @staged_chunked content u begun
    rw [← disk] at begun' staged
    rw [drive] at staged
    exact ⟨⟨⟨drive'.trans drive, begun'⟩, settled'⟩, by omega⟩

/-- A download that comes to an end does so within the bound on its chunks. -/
theorem stopsWithin_chunkBound (stops : Stops (chunkTurn content) s) :
    StopsWithin (chunkTurn content) (chunkBound s content) s := by
  have within := stops.within (n := content.length) (I := fun _ => True)
    (fun at_ => at_.schedule.left .nextChunk) ?_ ?_ trivial
  · refine within.mono ?_
    simp only [Schedule.left, chunkBound]
    omega
  · intro u v _ more
    exact ⟨trivial, by simp only [(chunkTurn_keeps more).2, Schedule.left_count]⟩
  · intro u _ settled stops
    cases met : u.schedule.next? .nextChunk with
    | none => exact chunkStopsWithin_of_drive ⟨settled, met⟩ stops
    | some fault => exact chunkStopsWithin_of_fault ⟨settled, met⟩ stops _

/-- What a download comes to is what it comes to without a bound on its chunks. -/
theorem fetchChunks_unbounded (content : Bytes) (s : Session) :
    (Stops (chunkTurn content) s →
      (runOn (fetchChunks content (chunkBound s content)) s).1 ≠ .error .endless ∧
      ∀ bound ≥ chunkBound s content, runOn (fetchChunks content bound) s =
        runOn (fetchChunks content (chunkBound s content)) s) ∧
    (¬ Stops (chunkTurn content) s → ∀ bound,
      (runOn (fetchChunks content bound) s).1 = .error .endless) :=
  (unrolls_fetchChunks content).bounded stopsWithin_chunkBound

end Repository

end DriveDepot
