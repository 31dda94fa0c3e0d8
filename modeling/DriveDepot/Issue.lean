import DriveDepot.Json.Wording
import DriveDepot.Text.Abridged

namespace DriveDepot

inductive Complaint
  | notAString
  | notUnicode
  | missing
  | notALayout
  | unknownCategory
  | unreadableBoolean
  | notABoolean
  | refused (reason : String)
  | frozen
  deriving DecidableEq, Repr

namespace Complaint

def code : Complaint → String
  | .notAString => "string_type"
  | .notUnicode => "string_unicode"
  | .missing => "missing"
  | .notALayout => "model_type"
  | .unknownCategory => "enum"
  | .unreadableBoolean => "bool_parsing"
  | .notABoolean => "bool_type"
  | .refused _ => "value_error"
  | .frozen => "frozen_instance"

def message : Complaint → String
  | .notAString => "Input should be a valid string"
  | .notUnicode =>
    "Input should be a valid string, unable to parse raw data as a unicode string"
  | .missing => "Field required"
  | .notALayout => "Input should be a valid dictionary or instance of ProvisionedLayout"
  | .unknownCategory =>
    "Input should be 'content', 'metadata_db', 'cleanup', 'action', 'transaction', 'temp', " ++
      "'repository_marker' or 'generic'"
  | .unreadableBoolean => "Input should be a valid boolean, unable to interpret input"
  | .notABoolean => "Input should be a valid boolean"
  | .refused reason => s!"Value error, {reason}"
  | .frozen => "Instance is frozen"

end Complaint

/-- The text that a value has to be. -/
def Json.checkedText : Json → Except Complaint String
  | .string s => .ok s
  | .halved _ => .error .notUnicode
  | _ => .error .notAString

structure Given where
  wording : List Char
  kind : Json.Kind
  deriving DecidableEq, Repr

def Given.ofJson (value : Json) : Given := ⟨value.wording, value.kind⟩

/-- A step into a value: to a field, or to an item of a list. -/
inductive Issue.Step
  | field (name : String)
  | item (position : Nat)
  deriving DecidableEq, Repr

def Issue.Step.text : Issue.Step → String
  | .field name => name
  | .item position => toString position

structure Issue where
  /-- Empty for the value as a whole. -/
  place : List Issue.Step
  complaint : Complaint
  /-- What stands at the place; where something is missing, the value that misses it. -/
  given : Given
  deriving DecidableEq, Repr

inductive Subject
  | remoteFile
  | foundFile
  | layout
  | settings
  deriving DecidableEq, Repr

def Subject.name : Subject → String
  | .remoteFile => "RemoteFile"
  | .foundFile => "DriveFile"
  | .layout => "ProvisionedLayout"
  | .settings => "Settings"

namespace Issue

def atField (name : String) (complaint : Complaint) (given : Given) : Issue :=
  ⟨[.field name], complaint, given⟩

def ofWhole (complaint : Complaint) (given : Given) : Issue := ⟨[], complaint, given⟩

/-- Of longer values a report tells the ends only. -/
def givenLimit : Nat := 50

/-- The line that names the place; none for the value as a whole. -/
def placeLine (place : List Step) : String :=
  if place.isEmpty then "" else ".".intercalate (place.map Step.text) ++ "\n"

/-- Where a kind of complaint is explained. -/
def explanation (code : String) : String := "https://errors.pydantic.dev/2.14/v/" ++ code

/-- The part of a report about one issue. -/
def paragraph (issue : Issue) : String :=
  let code := issue.complaint.code
  let given := String.ofList (Text.abridged givenLimit issue.given.wording)
  s!"{placeLine issue.place}  {issue.complaint.message} [type={code}, input_value={given}, " ++
    s!"input_type={issue.given.kind.word}]\n    For further information visit {explanation code}"

/-- Everything that is wrong with one value, with the number of issues at the head. -/
def report (subject : Subject) (issues : List Issue) : String :=
  let ending := if issues.length = 1 then "" else "s"
  "\n".intercalate
    (s!"{issues.length} validation error{ending} for {subject.name}" :: issues.map paragraph)

end Issue

end DriveDepot
