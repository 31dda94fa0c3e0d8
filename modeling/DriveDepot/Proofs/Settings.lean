import DriveDepot.Proofs.Disk
import DriveDepot.Proofs.Ends
import DriveDepot.Proofs.Text
import DriveDepot.Settings

namespace DriveDepot

theorem Environment.get?_append (stored environment : Environment) (name : String) :
    Environment.get? (stored ++ environment) name =
      (environment.get? name).or (stored.get? name) := by
  simp only [get?, List.reverse_append, List.find?_append, Option.map_or]

namespace Settings

open Operation

def requiredNames : List String :=
  ["GDRIVE_CLIENT_ID", "GDRIVE_CLIENT_SECRET", "GDRIVE_ROOT_PATH"]

def tokenName : String := "GDRIVE_REFRESH_TOKEN"

/-- A value is there and is not blank. -/
def Visible (value : Option String) : Prop :=
  ∃ text, value = some text ∧ ∃ c ∈ text.toList, Text.isBlank c = false

/-- The variables give no token, or an empty one. -/
def Wanting (value : String → Option String) : Prop := (value tokenName).getD "" = ""

instance (value : String → Option String) : Decidable (Wanting value) :=
  inferInstanceAs (Decidable (_ = _))

/-- The path of the token file as the variables give it to a program in the directory `package`. -/
def tokenPath (package : LocalPath) (value : String → Option String) : LocalPath :=
  ((value "BASE_DIR").map .ofString).getD package /
    .ofString ((value "TOKEN_STORAGE_FILE").getD ".gdrive.token")

/-- What the variables are known to be: the environment's values come before those of the file. -/
inductive Known (disk : Disk) (environment : Environment) : (String → Option String) → Prop
  | alone (absent : disk.isFile variableFile = .ok false) :
      Known disk environment environment.get?
  | stored {text : String} (held : disk.readAt variableFile = .ok (Text.Utf8.encode text)) :
      Known disk environment fun name =>
        (environment.get? name).or ((Environment.ofText text).get? name)

section
variable {package : LocalPath} {known : Environment}

theorem isEmpty_trim_iff {text : String} :
    (Text.trim text).isEmpty = true ↔ ∀ c ∈ text.toList, Text.isBlank c = true := by
  rw [Text.trim, String.isEmpty_iff, String.ofList_eq_empty_iff, Text.trimChars_eq_nil_iff]

theorem not_visible_iff {value : Option String} :
    ¬ Visible value ↔ (Text.trim (value.getD "")).isEmpty = true := by
  rw [isEmpty_trim_iff]
  cases value with
  | none => simp [Visible]
  | some text => simp [Visible]

instance (value : Option String) : Decidable (Visible value) :=
  decidable_of_iff (¬ (Text.trim (value.getD "")).isEmpty = true)
    ((not_congr not_visible_iff.symm).trans not_not)

theorem required_eq_ok {name value : String} (given : known.get? name = some value)
    (visible : (Text.trim value).isEmpty = false) : required known name = .ok value := by
  simp [required, given, visible]

theorem required_of_visible {name : String} (visible : Visible (known.get? name)) :
    ∃ value, required known name = .ok value := by
  have shown := mt not_visible_iff.mpr (not_not.mpr visible)
  obtain ⟨value, given, _⟩ := visible
  rw [given, Option.getD_some, Bool.not_eq_true] at shown
  exact ⟨value, required_eq_ok given shown⟩

theorem visible_of_required {name value : String} (found : required known name = .ok value) :
    Visible (known.get? name) := by
  by_contra blank
  rw [required, if_pos (not_visible_iff.mp blank)] at found
  cases found

theorem ofVariables_of_visible (visible : ∀ name ∈ requiredNames, Visible (known.get? name)) :
    ∃ settings, ofVariables package known = .ok settings ∧
      settings.refreshToken = known.get? tokenName ∧
        settings.tokenFile = tokenPath package known.get? := by
  simp only [requiredNames, List.forall_mem_cons] at visible
  obtain ⟨client, secret, root, _⟩ := visible
  obtain ⟨_, client⟩ := required_of_visible client
  obtain ⟨_, secret⟩ := required_of_visible secret
  obtain ⟨_, root⟩ := required_of_visible root
  rw [ofVariables, client, secret, root]
  exact ⟨_, rfl, rfl, rfl⟩

theorem ofVariables_of_not_visible (blank : ∃ name ∈ requiredNames, ¬ Visible (known.get? name)) :
    ∃ issues, ofVariables package known = .error issues := by
  rw [ofVariables]
  -- The first value that is refused ends the reading; if none is, none is blank.
  cases client : required known "GDRIVE_CLIENT_ID" with
  | error issues => exact ⟨issues, rfl⟩
  | ok _ =>
    cases secret : required known "GDRIVE_CLIENT_SECRET" with
    | error issues => exact ⟨issues, rfl⟩
    | ok _ =>
      cases root : required known "GDRIVE_ROOT_PATH" with
      | error issues => exact ⟨issues, rfl⟩
      | ok _ =>
        have all : ∀ name ∈ requiredNames, Visible (known.get? name) := by
          simp only [requiredNames, List.forall_mem_cons]
          exact ⟨visible_of_required client, visible_of_required secret, visible_of_required root,
            List.forall_mem_nil _⟩
        obtain ⟨name, member, blank⟩ := blank
        exact absurd (all name member) blank

end

section
variable {disk : Disk} {environment : Environment} {value : String → Option String}

theorem locate_variableFile (free : disk.obstacle? .search Disk.workingDirectory = none) :
    disk.locate variableFile = .ok (Disk.workingDirectory ++ [".env"]) := by
  have path : variableFile = ⟨.none, [".env"]⟩ := by decide +kernel
  have admitted : Disk.refusal? ⟨.none, [".env"]⟩ = none := by decide +kernel
  rw [path, Disk.locate, admitted]
  exact Disk.walk_last free (by decide) (by decide)

/-- The variables of the file, together with those of the environment, give what is known. -/
theorem Known.given (known : Known disk environment value) :
    ∃ stored : Environment, (∀ s, runOn (fileVariables disk) s = (.ok stored, s)) ∧
      Environment.get? (stored ++ environment) = value := by
  cases known with
  | alone absent =>
    refine ⟨[], fun s => ?_, rfl⟩
    rw [fileVariables, absent]
    rfl
  | @stored text held =>
    refine ⟨.ofText text, fun s => ?_, funext (Environment.get?_append _ _)⟩
    have there := (Disk.holds_of_readAt held).isFile
    have read : disk.read variableFile = .ok (Text.Utf8.encode text) := by rw [Disk.read, held]; rfl
    rw [fileVariables, there, read]
    simp only [ofDisk, ofExcept_ok, pure_bind, ↓reduceIte, Text.Utf8.decode_encode, runOn_pure]

end

inductive Refuses (disk : Disk) (path : LocalPath) (fault : Disk.Fault) : Prop
  | search (refused : disk.isFile path = .error fault) : Refuses disk path fault
  | read (there : disk.isFile path = .ok true) (refused : disk.read path = .error fault) :
      Refuses disk path fault

section
variable {settings : Settings} {known : Environment} {disk : Disk} {s : Session}

theorem hasToken_eq_false_iff : settings.hasToken = false ↔ settings.refreshToken.getD "" = "" := by
  simp [hasToken]

theorem completeToken_of_given (given : settings.hasToken = true) :
    runOn (settings.completeToken known disk) s = (.ok settings, s) := by
  rw [completeToken, if_pos given]
  rfl

section
variable (missing : settings.hasToken = false)
include missing

theorem completeToken_of_missing :
    settings.completeToken known disk = (do
      if !(← ofDisk (disk.isFile settings.tokenFile)) then return settings
      let content ← ofDisk (disk.read settings.tokenFile)
      let token ← ofIssues .settings (storedToken known content)
      if token.isEmpty then return settings
      info s!"Found refresh token in file: {settings.tokenFile}"
      return { settings with refreshToken := some token }) := by
  rw [completeToken, if_neg (by simp [missing])]

theorem completeToken_of_absent (absent : disk.isFile settings.tokenFile = .ok false) :
    runOn (settings.completeToken known disk) s = (.ok settings, s) := by
  rw [completeToken_of_missing missing, absent]
  rfl

theorem completeToken_of_refused {fault : Disk.Fault}
    (refused : Refuses disk settings.tokenFile fault) :
    runOn (settings.completeToken known disk) s = (.error (.ofDisk fault), s) := by
  rw [completeToken_of_missing missing]
  cases refused with
  | search refused => rw [refused]; rfl
  | read there refused => rw [there, refused]; rfl

theorem completeToken_of_text {text : String} {token : List Char}
    (held : disk.readAt settings.tokenFile = .ok (Text.Utf8.encode text))
    (trimmed : Text.Trimmed (Text.unifyNewlines text.toList) token) :
    (settings.completeToken known disk).Ends s fun outcome _ =>
      outcome = .ok { settings with
        refreshToken :=
          if token = [] then settings.refreshToken else some (String.ofList token) } := by
  have there := (Disk.holds_of_readAt held).isFile
  have read : disk.read settings.tokenFile = .ok (Text.Utf8.encode text) := by
    rw [Disk.read, held]
    rfl
  have found : storedToken known (Text.Utf8.encode text) = .ok (String.ofList token) := by
    simp only [storedToken, Text.Utf8.decode_encode, trimmed.eq]
  rw [completeToken_of_missing missing, there, read]
  simp only [ofDisk, ofIssues, ofExcept_ok, pure_bind, Bool.not_true, Bool.false_eq_true,
    ↓reduceIte, found]
  by_cases empty : token = []
  · simp [empty, ends_pure]
  · have given : (String.ofList token).isEmpty = false := by simpa using empty
    rw [given]
    simp only [Bool.false_eq_true, ↓reduceIte, empty]
    exact Ends.log_bind fun journal => ends_pure.mpr rfl

end

theorem completeToken_tokenFile :
    (settings.completeToken known disk).Ends s fun outcome _ =>
      ∀ found, outcome = .ok found → found.tokenFile = settings.tokenFile := by
  have self {t : Session} : (pure settings : Operation Settings).Ends t fun outcome _ =>
      ∀ found, outcome = .ok found → found.tokenFile = settings.tokenFile := by
    rintro _ ⟨⟩
    rfl
  rw [completeToken]
  split
  · exact self
  refine Ends.ofExcept_bind (fun there _ => ?_) (by rintro _ _ _ ⟨⟩)
  split
  · exact self
  refine Ends.ofExcept_bind (fun content _ => ?_) (by rintro _ _ _ ⟨⟩)
  refine Ends.ofExcept_bind (fun token _ => ?_) (by rintro _ _ _ ⟨⟩)
  split
  · exact self
  refine Ends.log_bind fun journal => ?_
  rintro _ ⟨⟩
  rfl

end

section
variable {s : Session} {package : LocalPath} {environment : Environment}
variable {value : String → Option String}
variable (known : Known s.disk environment value)
include known

theorem read_of_not_visible (blank : ∃ name ∈ requiredNames, ¬ Visible (value name)) :
    (read package environment).Ends s fun outcome _ =>
      ∃ issues, outcome = .error (.invalid .settings issues) := by
  obtain ⟨stored, run, rfl⟩ := known.given
  obtain ⟨issues, refused⟩ := @ofVariables_of_not_visible package _ blank
  rw [read, ends_disk_bind, Ends, runOn_bind, run]
  simp only [refused]
  exact ⟨_, rfl⟩

theorem read_of_visible (visible : ∀ name ∈ requiredNames, Visible (value name))
    {Q : Except Failure Settings → Session → Prop}
    (rest : ∀ (settings : Settings) taken journal, settings.refreshToken = value tokenName →
      settings.tokenFile = tokenPath package value →
      (settings.completeToken taken s.disk).Ends { s with journal } Q) :
    (read package environment).Ends s Q := by
  obtain ⟨stored, run, rfl⟩ := known.given
  obtain ⟨settings, made, token, path⟩ := @ofVariables_of_visible package _ visible
  rw [read, ends_disk_bind, Ends, runOn_bind, run]
  simp only [made, ofIssues, ofExcept_ok, pure_bind]
  -- The warning that no token is given yet changes the journal only.
  split
  · exact Ends.log_bind fun journal => rest settings _ journal token path
  · exact rest settings _ s.journal token path

theorem read_of_wanting (visible : ∀ name ∈ requiredNames, Visible (value name))
    (wanting : Wanting value) {Q : Except Failure Settings → Session → Prop}
    (rest : ∀ (settings : Settings) taken journal, settings.hasToken = false →
      settings.refreshToken = value tokenName → settings.tokenFile = tokenPath package value →
      (settings.completeToken taken s.disk).Ends { s with journal } Q) :
    (read package environment).Ends s Q := by
  refine read_of_visible known visible fun settings taken journal refresh path => ?_
  have missing : settings.hasToken = false := hasToken_eq_false_iff.mpr (refresh ▸ wanting)
  exact rest settings taken journal missing refresh path

theorem read_tokenFile :
    (read package environment).Ends s fun outcome _ =>
      ∀ settings, outcome = .ok settings → settings.tokenFile = tokenPath package value := by
  by_cases visible : ∀ name ∈ requiredNames, Visible (value name)
  · refine read_of_visible known visible fun settings taken journal _ path => ?_
    exact completeToken_tokenFile.mono fun _ _ same found outcome => (same found outcome).trans path
  · push Not at visible
    refine (read_of_not_visible known visible).mono ?_
    rintro _ _ ⟨_, rfl⟩ _ ⟨⟩

end

end Settings

end DriveDepot
