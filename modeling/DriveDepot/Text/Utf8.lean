import DriveDepot.Text

namespace DriveDepot

abbrev Bytes := List UInt8

namespace Text.Utf8

def encode (s : String) : Bytes := s.toUTF8.data.toList

inductive Defect
  | badStart
  | badContinuation
  | truncated
  deriving DecidableEq, Repr

def Defect.wording : Defect → String
  | .badStart => "invalid start byte"
  | .badContinuation => "invalid continuation byte"
  | .truncated => "unexpected end of data"

/-- The defect covers `length` bytes from `start` on, of which `first` is the first. -/
structure Fault where
  defect : Defect
  start : Nat
  length : Nat
  first : UInt8
  deriving DecidableEq, Repr

/-- The range of second bytes that a first byte admits, and how many bytes follow it in all. -/
def sequenceAfter (first : UInt8) : Option (Nat × UInt8 × UInt8) :=
  if first < 0xC2 then none
  else if first < 0xE0 then some (1, 0x80, 0xBF)
  else if first = 0xE0 then some (2, 0xA0, 0xBF)
  else if first = 0xED then some (2, 0x80, 0x9F)
  else if first < 0xF0 then some (2, 0x80, 0xBF)
  else if first = 0xF0 then some (3, 0x90, 0xBF)
  else if first < 0xF4 then some (3, 0x80, 0xBF)
  else if first = 0xF4 then some (3, 0x80, 0x8F)
  else none

/-- What follows the continuation bytes of a sequence, or the defect after `seen` bytes of it. -/
def continuation : (needed : Nat) → (low high : UInt8) → (seen : Nat) → Bytes →
    Except (Defect × Nat) Bytes
  | 0, _, _, _, rest => .ok rest
  | _ + 1, _, _, seen, [] => .error (.truncated, seen)
  | needed + 1, low, high, seen, b :: rest =>
    if low ≤ b ∧ b ≤ high then continuation needed 0x80 0xBF (seen + 1) rest
    else .error (.badContinuation, seen)

/-- The first defect at or after position `start`, looking at no more than `budget` sequences. -/
def firstFault : (budget : Nat) → (start : Nat) → Bytes → Option Fault
  | 0, _, _ => none
  | _ + 1, _, [] => none
  | budget + 1, start, first :: rest =>
    if first < 0x80 then firstFault budget (start + 1) rest
    else match sequenceAfter first with
      | none => some ⟨.badStart, start, 1, first⟩
      | some (needed, low, high) =>
        match continuation needed low high 1 rest with
        | .error (defect, length) => some ⟨defect, start, length, first⟩
        | .ok rest => firstFault budget (start + needed + 1) rest

def decode (bytes : Bytes) : Except Fault String :=
  match String.fromUTF8? ⟨bytes.toArray⟩ with
  | some s => .ok s
  | none => .error ((firstFault bytes.length 0 bytes).getD ⟨.truncated, 0, 0, 0⟩)

theorem decode_encode (s : String) : decode (encode s) = .ok s := by
  have valid : String.fromUTF8? ⟨s.toByteArray.data⟩ = some s := by
    rw [String.fromUTF8?, dif_pos s.isValidUTF8]; rfl
  simp [decode, encode, valid]

def Fault.message (f : Fault) : String :=
  let first := String.ofList (hexPair f.first.toNat)
  let place :=
    if f.length = 1 then s!"byte 0x{first} in position {f.start}"
    else s!"bytes in position {f.start}-{f.start + f.length - 1}"
  s!"'utf-8' codec can't decode {place}: {f.defect.wording}"

end Text.Utf8

end DriveDepot
