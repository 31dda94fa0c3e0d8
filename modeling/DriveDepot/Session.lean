import DriveDepot.Disk.Scratch
import DriveDepot.Drive.Schedule
import DriveDepot.Layout

namespace DriveDepot

inductive Level
  | info
  | warning
  | error
  | critical
  deriving DecidableEq, Repr

namespace Level

def name : Level → String
  | .info => "INFO"
  | .warning => "WARNING"
  | .error => "ERROR"
  | .critical => "CRITICAL"

def weight : Level → Nat
  | .info => 20
  | .warning => 30
  | .error => 40
  | .critical => 50

/-- The threshold that a word stands for. -/
def threshold? : String → Option Nat
  | "CRITICAL" | "FATAL" => some 50
  | "ERROR" => some 40
  | "WARN" | "WARNING" => some 30
  | "INFO" => some 20
  | "DEBUG" => some 10
  | "NOTSET" => some 0
  | _ => none

end Level

structure Record where
  level : Level
  message : String
  deriving DecidableEq, Repr

/-- What an authorization leads to: where the user is sent, and the token that a code brings. -/
structure Grant where
  url : String
  refreshToken : Option String
  deriving DecidableEq, Repr

structure Session where
  drive : Drive
  schedule : Schedule
  disk : Disk
  layout : Layout
  grant : Grant
  /-- The token that the last authorization brought. -/
  granted : Option String
  /-- The calls executed, in order. -/
  calls : List Call
  journal : List Record
  /-- Less important records than this are not kept. -/
  threshold : Nat
  output : String

end DriveDepot
