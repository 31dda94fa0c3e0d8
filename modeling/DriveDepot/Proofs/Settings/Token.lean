import Mathlib.Data.String.Basic
import DriveDepot.Command.Run
import DriveDepot.Proofs.Disk.Refusals
import DriveDepot.Proofs.Settings
import DriveDepot.Proofs.Settings.VariableFile

/-!
Where the token of the settings comes from. A value of the variables counts as it is, unless it is
empty; then the text of the token file counts, without the blanks around it. An authorization writes
its token as it is, so that a token which the reading changes does not come back.
-/

namespace DriveDepot

open Operation

theorem Authorization.token_ends (code : String) (s : Session) :
    (token code).Ends s fun outcome t => ∀ token, outcome = .ok token →
      t.granted = some token ∧ token ≠ "" := by
  rw [Authorization.token]
  refine Ends.any_bind (fun _ t => ?_) (by rintro _ _ _ ⟨⟩)
  rw [ends_get_bind]
  split
  · rintro _ ⟨⟩
  · rintro _ ⟨⟩
  · rename_i token other granted
    rintro _ ⟨⟩
    exact ⟨granted, other⟩

namespace Command

/-- An authorization has brought the token, and the file at the path holds it as it is. -/
structure Kept (path : LocalPath) (token : String) (t : Session) : Prop where
  granted : t.granted = some token
  given : token ≠ ""
  held : t.disk.Holds path (Text.Utf8.encode token)

section
variable {settings : Settings} {s : Session}

theorem authorize_ends (input : String) :
    (authorize settings input).Ends s fun outcome t => outcome = .ok () →
      ∃ token, Kept settings.tokenFile token t := by
  -- What the steps before the exchange come to does not matter, as long as they do not fail.
  have step {α : Type} {operation : Operation α} {next : α → Operation Unit} {t : Session}
      (rest : ∀ a u, (next a).Ends u fun outcome v => outcome = .ok () →
        ∃ token, Kept settings.tokenFile token v) :
      (operation >>= next).Ends t fun outcome u => outcome = .ok () →
        ∃ token, Kept settings.tokenFile token u :=
    Ends.any_bind rest (by rintro _ _ ⟨⟩)
  rw [authorize]
  refine step fun _ _ => step fun _ _ => step fun _ _ => step fun _ _ => step fun _ _ => ?_
  refine step fun _ _ => step fun _ t => ?_
  refine (Authorization.token_ends _ t).bind (fun token t obtained => ?_) (by rintro _ _ _ ⟨⟩)
  obtain ⟨granted, given⟩ := obtained token rfl
  rw [ends_disk_bind]
  refine Ends.ofExcept_bind (fun after written => ?_) (by rintro _ _ ⟨⟩)
  rw [setDisk, ends_modify_bind]
  obtain ⟨place, located, other, rfl⟩ := Disk.write_eq_ok written
  exact fun _ => ⟨token, granted, given, Disk.holds_set located other _⟩

theorem run_auth_ends {package : LocalPath} {arguments : List String} {environment : Environment}
    {input : String} {value : String → Option String}
    (known : Settings.Known s.disk environment value)
    (parsed : ofArguments? arguments = some .auth) :
    (run package arguments environment input).Ends s fun outcome t => outcome = .ok .success →
      ∃ token, Kept (Settings.tokenPath package value) token t := by
  rw [run, parsed]
  dsimp only
  rw [ends_modify_bind]
  have path := @Settings.read_tokenFile { s with threshold := 0 } package environment value known
  refine path.bind (fun settings t path => ?_) (by rintro _ _ _ ⟨⟩)
  rw [← path settings rfl]
  refine Ends.any_bind (fun _ u => ?_) (by rintro _ _ ⟨⟩)
  have done : (do authorize settings input; return .success : Operation Status).Ends u
      fun outcome t => outcome = .ok .success → ∃ token, Kept settings.tokenFile token t :=
    (authorize_ends input).bind (fun _ _ kept _ => kept rfl) (by rintro _ _ _ ⟨⟩)
  refine done.handleIf (fun _ _ kept => kept) (fun failure t _ _ => ?_) (by rintro _ _ _ _ ⟨⟩)
  exact Ends.log_bind fun journal => by rintro ⟨⟩

end

end Command

namespace Settings

/-- Reading the settings succeeds, and this is their token. -/
def Yields (s : Session) (package : LocalPath) (environment : Environment)
    (token : Option String) : Prop :=
  (read package environment).Ends s fun outcome _ =>
    ∃ settings, outcome = .ok settings ∧ settings.refreshToken = token

/-- The sources of the token, in the order in which they count. -/
structure Chain (s : Session) (package : LocalPath) (environment : Environment)
    (value : String → Option String) : Prop where
  given : ∀ token, value tokenName = some token → token ≠ "" →
    Yields s package environment (some token)
  stored : Wanting value → ∀ text,
    s.disk.readAt (tokenPath package value) = .ok (Text.Utf8.encode text) →
      ∃ token : String, Text.Trimmed (Text.unifyNewlines text.toList) token.toList ∧
        Yields s package environment (if token = "" then value tokenName else some token)
  absent : Wanting value → s.disk.isFile (tokenPath package value) = .ok false →
    Yields s package environment (value tokenName)
  refused : Wanting value → ∀ fault, Refuses s.disk (tokenPath package value) fault →
    (read package environment).Ends s fun outcome _ => outcome = .error (.ofDisk fault)

section
variable {s : Session} {package : LocalPath} {environment : Environment}
variable {value : String → Option String}

theorem chain_of_visible (known : Known s.disk environment value)
    (visible : ∀ name ∈ requiredNames, Visible (value name)) :
    Chain s package environment value where
  given token found given := by
    refine read_of_visible known visible fun settings taken journal refresh _ => ?_
    have has : settings.hasToken = true := by simp [hasToken, refresh, found, given]
    rw [Ends, completeToken_of_given has]
    exact ⟨settings, rfl, refresh.trans found⟩
  stored wanting text held := by
    have trimmed := Text.trimmed_trimChars (Text.unifyNewlines text.toList)
    refine ⟨.ofList (Text.trimChars (Text.unifyNewlines text.toList)), ?_, ?_⟩
    · rwa [String.toList_ofList]
    refine read_of_wanting known visible wanting ?_
    intro settings taken journal missing refresh path
    refine (completeToken_of_text missing (path ▸ held) trimmed).mono ?_
    rintro _ _ rfl
    refine ⟨_, rfl, ?_⟩
    simp only [String.ofList_eq_empty_iff, refresh]
  absent wanting absent := by
    refine read_of_wanting known visible wanting ?_
    intro settings taken journal missing refresh path
    rw [Ends, completeToken_of_absent missing (path ▸ absent)]
    exact ⟨settings, rfl, refresh⟩
  refused wanting fault refused := by
    refine read_of_wanting known visible wanting ?_
    intro settings taken journal missing _ path
    rw [Ends, completeToken_of_refused missing (path ▸ refused)]

/-- A token that a file holds as it is comes back unless the reading changes it. -/
theorem Chain.read_back (chain : Chain s package environment value) (wanting : Wanting value)
    {token : String} (given : token ≠ "")
    (held : s.disk.readAt (tokenPath package value) = .ok (Text.Utf8.encode token)) :
    ∃ found, Yields s package environment found ∧
      (found = some token ↔ Text.Unpadded token.toList ∧ '\r' ∉ token.toList) := by
  obtain ⟨read, trimmed, yields⟩ := chain.stored wanting token held
  refine ⟨_, yields, ?_⟩
  rw [← Text.trimmed_unifyNewlines_self_iff]
  have same : Text.Trimmed (Text.unifyNewlines token.toList) token.toList ↔ read = token := by
    constructor
    · exact fun own => String.toList_injective (trimmed.eq.symm.trans own.eq)
    · rintro rfl
      exact trimmed
  rw [same]
  split
  -- Of a token of blanks nothing is left, and an empty value of the variables is not that token.
  · rename_i empty
    have other : value tokenName ≠ some token := by
      intro found
      rw [Wanting, found] at wanting
      exact given wanting
    exact iff_of_false other (empty ▸ given.symm)
  · exact Option.some_inj

end

/-- Without the values that are required, nothing is read. With them, the token is the one that the
variables give, or else the one in the token file; if the file system refuses to look for that file
or to read it, nothing is read either. What an authorization has written there comes back if and
only if no blank stands at its ends and no carriage return in it. -/
theorem token_of_sources :
    (∀ lines : List Environment.Line, (∀ line ∈ lines, line.Simple) →
      Environment.ofText (Environment.fileText lines) = Environment.ofLines lines) ∧
    (∀ (s : Session) package environment value, Known s.disk environment value →
      ((∃ name ∈ requiredNames, ¬ Visible (value name)) →
        (read package environment).Ends s fun outcome _ =>
          ∃ issues, outcome = .error (.invalid .settings issues)) ∧
      ((∀ name ∈ requiredNames, Visible (value name)) → Chain s package environment value)) ∧
    ∀ (s : Session) package arguments environment value input, Known s.disk environment value →
      Command.ofArguments? arguments = some .auth →
      (Command.run package arguments environment input).Ends s fun outcome t =>
        outcome = .ok .success →
          ∃ token, Command.Kept (tokenPath package value) token t ∧
            ∀ (u : Session) package later laterValue, Known u.disk later laterValue →
              (∀ name ∈ requiredNames, Visible (laterValue name)) → Wanting laterValue →
              u.disk.readAt (tokenPath package laterValue) = .ok (Text.Utf8.encode token) →
              ∃ found, Yields u package later found ∧
                (found = some token ↔ Text.Unpadded token.toList ∧ '\r' ∉ token.toList) := by
  refine ⟨fun _ => Environment.ofText_fileText, fun s package environment value known =>
    ⟨read_of_not_visible known, chain_of_visible known⟩, ?_⟩
  intro s package arguments environment value input known parsed
  apply (Command.run_auth_ends known parsed).mono
  intro outcome t kept success
  obtain ⟨token, kept⟩ := kept success
  refine ⟨token, kept, fun u package later laterValue known visible wanting held => ?_⟩
  exact (chain_of_visible known visible).read_back wanting kept.given held

/-- The variables of a user who has no token yet. -/
def signingLines : List Environment.Line :=
  [.comment " access", .bare "GDRIVE_CLIENT_ID" "id",
   .quoted '"' "GDRIVE_CLIENT_SECRET" "the # secret", .empty,
   .quoted '\x27' "GDRIVE_ROOT_PATH" "repo"]

/-- The user is about to be granted a token. -/
def signing : Session :=
  ⟨⟨[], 0, none, 2, .object []⟩, .ofFaults [],
    Disk.empty.set ["local", ".env"]
      (.file (Text.Utf8.encode (Environment.fileText signingLines))),
    .fresh "", ⟨"url", some "1//token"⟩, none, [], [], 0, ""⟩

/-- The directory of the program. -/
def signingPackage : LocalPath := .ofString "/local"

def signed : Session := (runOn (Command.run signingPackage ["auth"] [] "code") signing).2

/-- The user may not read the token file. -/
def unreadable : Session :=
  { signed with
    disk := { signed.disk with barriers := [⟨["local", ".gdrive.token"], .read, .denied⟩] } }

theorem simple_signingLines : ∀ line ∈ signingLines, line.Simple := by
  simp only [signingLines, List.forall_mem_cons]
  exact ⟨.comment (by decide +kernel), .bare (by decide +kernel) (by decide +kernel),
    .quoted (by decide +kernel) (by decide +kernel), .empty,
    .quoted (by decide +kernel) (by decide +kernel), List.forall_mem_nil _⟩

/-- What is known there, together with an environment. -/
def signingValue (environment : Environment) (name : String) : Option String :=
  (environment.get? name).or ((Environment.ofLines signingLines).get? name)

theorem known_signingValue {disk : Disk} (environment : Environment)
    (held : disk.readAt variableFile =
      .ok (Text.Utf8.encode (Environment.fileText signingLines))) :
    Known disk environment (signingValue environment) := by
  have known : Known disk environment _ := .stored held
  rwa [Environment.ofText_fileText simple_signingLines] at known

/-- The token is taken from nowhere before the authorization and from its file afterwards, unless
the environment gives another one, blanks and all. Where the file may not be read, nothing is. -/
theorem token_of_sources_signed :
    Environment.ofText (Environment.fileText signingLines) = Environment.ofLines signingLines ∧
      Yields signing signingPackage [] none ∧
      (runOn (Command.run signingPackage ["auth"] [] "code") signing).1 = .ok .success ∧
      Yields signed signingPackage [] (some "1//token") ∧
      Yields signed signingPackage [("GDRIVE_REFRESH_TOKEN", " own ")] (some " own ") ∧
      ((read signingPackage []).Ends unreadable fun outcome _ =>
        outcome = .error (.ofDisk ⟨.barred .denied, "/local/.gdrive.token", none⟩)) ∧
      (read signingPackage [("gdrive_root_path", " ")]).Ends signed fun outcome _ =>
        ∃ issues, outcome = .error (.invalid .settings issues) := by
  obtain ⟨files, reads, authorizes⟩ := token_of_sources
  obtain ⟨success, granted, stays⟩ :
      (runOn (Command.run signingPackage ["auth"] [] "code") signing).1 = .ok .success ∧
        signed.granted = some "1//token" ∧
        signed.disk.readAt variableFile = signing.disk.readAt variableFile := by decide +kernel
  have run : runOn (Command.run signingPackage ["auth"] [] "code") signing =
      (.ok .success, signed) := Prod.ext success (by rw [signed])
  have held : signing.disk.readAt variableFile =
      .ok (Text.Utf8.encode (Environment.fileText signingLines)) :=
    (Disk.holds_set (locate_variableFile rfl) (by decide) _).readAt fun _ => rfl
  have known (environment) := known_signingValue environment held
  have later (environment) := known_signingValue environment (stays.trans held)
  have visible : ∀ name ∈ requiredNames, Visible (signingValue [] name) := by decide +kernel
  have wanting : Wanting (signingValue []) := by decide +kernel
  refine ⟨files _ simple_signingLines, ?_, success, ?_, ?_, ?_, ?_⟩
  · have chain := (reads signing signingPackage [] _ (known [])).2 visible
    exact chain.absent wanting (by decide +kernel)
  · have parsed : Command.ofArguments? ["auth"] = some .auth := rfl
    obtain ⟨token, kept, again⟩ :=
      (authorizes signing signingPackage _ [] _ "code" (known []) parsed).of_eq run rfl
    obtain rfl : token = "1//token" := Option.some_inj.mp (kept.granted.symm.trans granted)
    obtain ⟨found, yields, same⟩ :=
      again signed signingPackage [] _ (later []) visible wanting (by decide +kernel)
    have back : found = some "1//token" := same.mpr (by decide +kernel)
    exact back ▸ yields
  · have chain := (reads signed signingPackage _ _
      (later [("GDRIVE_REFRESH_TOKEN", " own ")])).2 (by decide +kernel)
    exact chain.given " own " (by decide +kernel) (by decide +kernel)
  · have kept : unreadable.disk.readAt variableFile = signed.disk.readAt variableFile := by
      decide +kernel
    have known := known_signingValue [] (kept.trans (stays.trans held))
    have chain := (reads unreadable signingPackage [] _ known).2 visible
    exact chain.refused wanting _ (.read (by decide +kernel) (by decide +kernel))
  · exact (reads signed signingPackage _ _ (later [("gdrive_root_path", " ")])).1
      (by decide +kernel)

/-- A token file whose name is too long. -/
def overlongName : String := String.ofList (List.replicate 300 'n')

def overlong : Environment :=
  [("GDRIVE_CLIENT_ID", "id"), ("GDRIVE_CLIENT_SECRET", "secret"), ("GDRIVE_ROOT_PATH", "repo"),
   ("BASE_DIR", "."), ("TOKEN_STORAGE_FILE", overlongName)]

/-- There is no such file, and no token is given. Still nothing is read, as the file system refuses
to look for the file. -/
theorem overlong_token_path :
    Known Disk.empty overlong overlong.get? ∧
      (∀ name ∈ requiredNames, Visible (overlong.get? name)) ∧
      overlong.get? tokenName = none ∧
      (∀ content, Disk.empty.readAt (tokenPath signingPackage overlong.get?) ≠ .ok content) ∧
      ¬ Yields { signing with disk := .empty } signingPackage overlong none := by
  have alone : Disk.empty.isFile variableFile = .ok false := by decide +kernel
  have visible : ∀ name ∈ requiredNames, Visible (overlong.get? name) := by decide +kernel
  have letters : overlongName.toList = List.replicate 300 'n' := String.toList_ofList
  have path : tokenPath signingPackage overlong.get? = ⟨.none, [overlongName]⟩ := by
    have based : overlong.get? "BASE_DIR" = some "." := rfl
    have named : overlong.get? "TOKEN_STORAGE_FILE" = some overlongName := rfl
    have plain : '/' ∉ overlongName.toList := by rw [letters]; decide +kernel
    have given : overlongName.toList ≠ [] := by rw [letters]; decide +kernel
    have other : overlongName.toList ≠ ['.'] := by rw [letters]; decide +kernel
    rw [tokenPath, based, named, Option.getD_some,
      LocalPath.ofString_of_not_mem plain given other]
    rfl
  have long : Disk.empty.locate (tokenPath signingPackage overlong.get?) = .error .nameTooLong := by
    have size : overlongName.utf8ByteSize = 300 :=
      (String.utf8ByteSize_ofList _).trans (by decide +kernel)
    rw [path]
    exact Disk.locate_of_tooLong (by rw [letters]; decide +kernel) (by simp [Disk.tooLong, size])
      rfl
  refine ⟨.alone alone, visible, by decide +kernel, ?_, ?_⟩
  · intro content read
    obtain ⟨place, located, _⟩ := Disk.holds_of_readAt read
    cases long.symm.trans located
  · rintro ⟨settings, read, _⟩
    have chain := @chain_of_visible { signing with disk := .empty } signingPackage overlong _
      (.alone alone) visible
    have unsearched : Disk.empty.isFile (tokenPath signingPackage overlong.get?) =
        .error ⟨.nameTooLong, (tokenPath signingPackage overlong.get?).toString, none⟩ := by
      rw [Disk.isFile, long]
      rfl
    cases read.symm.trans (chain.refused (by decide +kernel) _ (.search unsearched))

end Settings

end DriveDepot
