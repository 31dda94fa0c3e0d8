import DriveDepot.Proofs.Creation

namespace DriveDepot.Repository

open Operation

section
variable {s : Session}

theorem browsed_called {call : Call} (noFolder : call.newFolder? = none)
    (noChunk : call.kind ≠ .nextChunk) (s : Session) : s.Browsed (s.called call) := by
  refine ⟨⟨⟨rfl, rfl, rfl, ?_⟩, rfl⟩, ?_⟩
  · rw [Session.chunks_called, if_neg noChunk]
    rfl
  · simp [Session.foldersAsked, Session.called, List.filterMap_append, noFolder]

theorem refresh_ends (s : Session) :
    (perform .refresh (pure .null)).Ends s fun outcome t =>
      s.Browsed t ∧ (s.schedule.Calm → ∃ value, outcome = .ok value) := by
  have browsed : s.Browsed (s.called .refresh) := browsed_called rfl (by decide) s
  have effective : (pure .null : Operation Json).Ends (s.called .refresh) fun outcome t =>
      outcome = .ok .null ∧ t = s.called .refresh := ends_pure.mpr ⟨rfl, rfl⟩
  apply (Ends.perform_met effective).mono
  intro outcome t h
  split at h
  · obtain ⟨rfl, rfl⟩ := h
    exact ⟨browsed, fun _ => ⟨_, rfl⟩⟩
  · rename_i fault met
    refine ⟨?_, fun calm => nomatch (calm.spares _).next?.symm.trans met⟩
    cases h with
    | answered | raised => exact browsed
    | raisedLate _ effect => exact effect.2 ▸ browsed
    | failed effect => cases effect.1

theorem account_ends (s : Session) :
    (request .account).Ends s fun outcome t =>
      s.Browsed t ∧ (s.schedule.Calm → outcome = .ok s.drive.account) := by
  have answer : s.drive.answer .account = .ok (s.drive.account, s.drive) := rfl
  apply (request_granted answer).mono
  rintro outcome t ⟨asked, granted⟩
  have same : t.drive = s.drive := by
    generalize t.drive = after at granted
    cases granted <;> rfl
  refine ⟨⟨⟨asked.toSameAround, same⟩, asked.foldersAsked.trans (List.append_nil _)⟩, ?_⟩
  intro calm
  generalize t.drive = after at granted
  cases granted with
  | done => rfl
  | replaced met => cases (calm.spares _).next?.symm.trans met
  | raised raises | raisedLate raises => exact absurd raises.raises (calm.not_raises _)

/-- Connecting changes nothing, and it succeeds without faults. -/
theorem connect_ends (s : Session) :
    connect.Ends s fun outcome t => s.Browsed t ∧ (s.schedule.Calm →
      ∀ fields, s.drive.account = .object fields → outcome = .ok ()) := by
  rw [connect]
  refine Ends.bind (P := fun outcome t => s.Browsed t ∧ (s.schedule.Calm →
    outcome = .ok s.drive.account)) ?_ ?_ ?_
  · refine Ends.handleIf (P := fun outcome t => s.Browsed t ∧ (s.schedule.Calm →
      outcome = .ok s.drive.account)) ?_ (fun _ _ h => h) ?_ fun _ _ _ h => h
    · refine (refresh_ends s).bind ?_ ?_
      · rintro _ t ⟨browsed, _⟩
        apply (account_ends t).mono
        rintro outcome u ⟨browsed', told⟩
        refine ⟨browsed.trans browsed', fun calm => ?_⟩
        rw [told (browsed.calm calm), browsed.drive]
      · rintro failure t ⟨browsed, renewed⟩
        exact ⟨browsed, fun calm => nomatch renewed calm⟩
    · rintro failure t _ ⟨browsed, told⟩
      refine Ends.log_bind fun journal => ends_throw.mpr ⟨browsed.trans (.journal t journal), ?_⟩
      exact fun calm => nomatch told calm
  · rintro account t ⟨browsed, told⟩
    refine Ends.ofExcept_bind (fun name _ => ?_) fun mishap failed => ⟨browsed, ?_⟩
    · exact Ends.log fun journal => ⟨browsed.trans (.journal t journal), fun _ _ _ => rfl⟩
    · intro calm fields known
      rw [Except.ok.inj (told calm), known] at failed
      cases failed
  · rintro failure t ⟨browsed, told⟩
    exact ⟨browsed, fun calm => nomatch told calm⟩

/-- A preparation comes to what its steps come to, as nothing is left to be undone. -/
theorem prepare_ends {wanted : Bool} {Q : Except Failure Unit → Session → Prop}
    (steps : Ends (do connect; ensureRoot wanted; requireRoot; createSlots) s Q)
    (told : ∀ failure t journal, Q (.error failure) t →
      Q (.error failure) { t with journal := journal }) : (prepare wanted).Ends s Q := by
  refine Ends.ensuring (P := Q) ?_ (fun _ _ h => h) fun _ h => h
  refine steps.handleIf (fun _ _ h => h) ?_ fun _ _ _ h => h
  intro failure t _ h
  exact Ends.log_bind fun journal => ends_throw.mpr (told failure t journal h)

theorem ne_null_of_known {id : Json} (known : id.isNothing = false) : id ≠ .null := by
  rintro rfl
  cases known

theorem requireRoot_ends (s : Session) :
    requireRoot.Ends s fun outcome t =>
      t = s ∧ (outcome = .ok () ↔ s.layout.rootId.isNothing = false) := by
  rw [requireRoot, ends_layout_bind]
  split
  · rename_i unknown
    exact ends_throw.mpr ⟨rfl, by simp [unknown]⟩
  · rename_i known
    exact ends_pure.mpr ⟨rfl, by simpa using known⟩

/-- The layout once the category folders are made that get the next ids. -/
def provided (layout : Layout) (created : Nat) : Layout :=
  { layout.fill (Slot.issued created Slot.all) with complete := true }

/-- The category folders are made exactly if the drive has the root folder. -/
theorem provide_calm (calm : s.schedule.Calm) :
    Ends (do requireRoot; createSlots) s fun outcome t =>
      (outcome = .ok () ↔ s.drive.holds s.layout.rootId = true) ∧
        ∀ root, s.layout.rootId = .string root → outcome = .ok () →
          s.Provided (Drive.siblings s.drive.created root Slot.titles)
            (provided s.layout s.drive.created) t := by
  refine (requireRoot_ends s).bind ?_ ?_
  · rintro ⟨⟩ t ⟨rfl, known⟩
    cases held : t.drive.holds t.layout.rootId with
    | true =>
      obtain ⟨root, rooted⟩ := Drive.exists_of_holds held
      rw [rooted] at held
      apply (createSlots_calm calm rooted held).mono
      rintro outcome u ⟨ended, made⟩
      refine ⟨iff_of_true ended rfl, fun other same _ => ?_⟩
      obtain rfl := Json.string.inj (rooted.symm.trans same)
      exact made
    | false =>
      apply (createSlots_refused calm (ne_null_of_known (known.mp rfl)) held).mono
      intro outcome u impossible
      exact ⟨iff_of_false impossible nofun, fun _ _ ended => absurd ended impossible⟩
  · rintro failure t ⟨rfl, known⟩
    refine ⟨iff_of_false nofun fun held => ?_, fun _ _ => nofun⟩
    obtain ⟨root, rooted⟩ := Drive.exists_of_holds held
    rw [rooted] at held known
    have addressed := (Drive.holds_string.mp held).1
    cases known.mpr (by simpa [Json.isNothing] using addressed)

theorem ensureRoot_calm (calm : s.schedule.Calm) {first : String} {rest : List String}
    (segments : s.layout.segments = first :: rest) :
    (ensureRoot true).Ends s fun outcome t => outcome = .ok () ∧
      match s.drive.trail none s.layout.segments with
      | .found _ => s.Provided [] (s.drive.attach s.layout) t
      | _ => s.Provided (Drive.chain s.drive.created none (first :: rest))
          (s.layout.rooted (Drive.issuedId (s.drive.created + (first :: rest).length))) t := by
  rw [ensureRoot]
  refine (targetExists_ends calm.raising).bind ?_ ?_
  · rintro positive t ⟨_, same, probed⟩
    obtain rfl := Except.ok.inj same
    obtain ⟨layout, found⟩ := probed.spared (calm.spares _)
    cases positive with
    | true =>
      obtain ⟨id, leads⟩ := found.mp rfl
      rw [leads]
      exact ends_pure.mpr ⟨rfl, layout ▸ probed.toObserved.provided⟩
    | false =>
      have ended : ∀ id, s.drive.trail none s.layout.segments ≠ .found id :=
        fun id leads => nomatch found.mpr ⟨id, leads⟩
      rw [Drive.attach_of_ended ended] at layout
      have made := createRoot_calm (probed.faults.trans calm) (layout ▸ segments)
      rw [layout, probed.drive] at made
      apply made.mono
      rintro outcome u ⟨done, made⟩
      refine ⟨done, ?_⟩
      cases leads : s.drive.trail none s.layout.segments with
      | found id => exact absurd leads (ended id)
      | missing | several | refused => exact probed.toObserved.provided.trans made
  · rintro failure t ⟨_, same, _⟩
    cases same

/-- Category folders in a folder that there was. -/
theorem provide_found (calm : s.schedule.Calm) {layout : Layout} {u : Session}
    (rooted : s.Provided [] layout u) :
    Ends (do requireRoot; createSlots) u fun outcome v => outcome = .ok () →
      ∃ root, layout.rootId = .string root ∧
        s.Provided (Drive.siblings s.drive.created root Slot.titles)
          (provided layout s.drive.created) v := by
  apply (provide_calm (rooted.calm calm)).mono
  rintro outcome v ⟨possible, made⟩ succeeded
  obtain ⟨root, known⟩ := Drive.exists_of_holds (possible.mp succeeded)
  have made := rooted.trans (made root known succeeded)
  rw [rooted.created, rooted.layout] at made
  exact ⟨root, rooted.layout ▸ known, made⟩

/-- Category folders in the innermost of the folders that have been made. -/
theorem provide_founded (calm : s.schedule.Calm) {first : String} {rest : List String} {u : Session}
    (rooted : s.Provided (Drive.chain s.drive.created none (first :: rest))
      (s.layout.rooted (Drive.issuedId (s.drive.created + (first :: rest).length))) u) :
    let created := s.drive.created + (first :: rest).length
    Ends (do requireRoot; createSlots) u fun outcome v => outcome = .ok () ∧
      s.Provided (Drive.provision s.drive.created (first :: rest))
        (provided (s.layout.rooted (Drive.issuedId created)) created) v := by
  apply (provide_calm (rooted.calm calm)).mono
  rintro outcome v ⟨possible, made⟩
  have known : u.layout.rootId =
      .string (Drive.issuedId (s.drive.created + (first :: rest).length)) := by
    rw [rooted.layout]
    rfl
  have held : u.drive.holds u.layout.rootId = true := by
    obtain ⟨title, inside, member⟩ := Drive.exists_mem_chain s.drive.created none first rest
    rw [known, rooted.drive]
    exact Drive.holds_grown_of_mem member
  have succeeded := possible.mpr held
  have made := rooted.trans (made _ known succeeded)
  rw [rooted.created, rooted.layout, Drive.length_chain] at made
  exact ⟨succeeded, made⟩

/-- Without faults the root path decides what a preparation makes: the category folders in the
folder that it leads to, or else a folder for each title and the category folders in the last. -/
theorem prepare_calm (calm : s.schedule.Calm) {first : String} {rest : List String}
    (segments : s.layout.segments = first :: rest) :
    (prepare true).Ends s fun outcome t => match s.drive.trail none s.layout.segments with
      | .found _ => outcome = .ok () → ∃ root,
          (s.drive.attach s.layout).rootId = .string root ∧
            s.Provided (Drive.siblings s.drive.created root Slot.titles)
              (provided (s.drive.attach s.layout) s.drive.created) t
      | _ =>
        let created := s.drive.created + (first :: rest).length
        ((∃ fields, s.drive.account = .object fields) → outcome = .ok ()) ∧
          (outcome = .ok () → s.Provided (Drive.provision s.drive.created (first :: rest))
            (provided (s.layout.rooted (Drive.issuedId created)) created) t) := by
  apply prepare_ends
  · refine (connect_ends s).bind ?_ ?_
    · rintro ⟨⟩ t ⟨browsed, _⟩
      have made := ensureRoot_calm (browsed.calm calm) (browsed.layout ▸ segments)
      rw [browsed.drive, browsed.layout] at made
      refine made.bind ?_ ?_
      · rintro ⟨⟩ u ⟨_, rooted⟩
        have start := browsed.observed.provided
        cases leads : s.drive.trail none s.layout.segments with
        | found id =>
          rw [leads] at rooted
          exact provide_found calm (start.trans rooted)
        | missing | several | refused =>
          rw [leads] at rooted
          apply (provide_founded calm (start.trans rooted)).mono
          exact fun outcome v made => ⟨fun _ => made.1, fun _ => made.2⟩
      · rintro failure u ⟨failed, _⟩
        cases failed
    · rintro failure t ⟨_, connected⟩
      cases s.drive.trail none s.layout.segments with
      | found => exact nofun
      | missing | several | refused =>
        exact ⟨fun ⟨fields, known⟩ => connected calm fields known, nofun⟩
  · intro failure t journal
    cases s.drive.trail none s.layout.segments with
    | found => exact fun _ => nofun
    | missing | several | refused => exact fun h => ⟨h.1, nofun⟩

/-- A root path that leads nowhere gets a folder for each title. -/
theorem prepare_calm_of_ended (calm : s.schedule.Calm) {first : String} {rest : List String}
    (segments : s.layout.segments = first :: rest)
    (ended : ∀ id, s.drive.trail none (first :: rest) ≠ .found id) :
    (prepare true).Ends s fun outcome t =>
      let created := s.drive.created + (first :: rest).length
      ((∃ fields, s.drive.account = .object fields) → outcome = .ok ()) ∧
        (outcome = .ok () → s.Provided (Drive.provision s.drive.created (first :: rest))
          (provided (s.layout.rooted (Drive.issuedId created)) created) t) := by
  have made := prepare_calm calm segments
  rw [segments] at made
  cases leads : s.drive.trail none (first :: rest) with
  | found id => exact absurd leads (ended id)
  | missing | several | refused =>
    rw [leads] at made
    exact made

end

end DriveDepot.Repository
