namespace DriveDepot.Text

/-- How many bytes characters take up. -/
def byteCount : List Char → Nat
  | [] => 0
  | c :: rest => c.utf8Size + byteCount rest

@[simp] theorem byteCount_append (a b : List Char) :
    byteCount (a ++ b) = byteCount a + byteCount b := by
  induction a with
  | nil => simp [byteCount]
  | cons c rest ih => simp [byteCount, ih, Nat.add_assoc]

@[simp] theorem byteCount_reverse (cs : List Char) : byteCount cs.reverse = byteCount cs := by
  induction cs with
  | nil => rfl
  | cons c rest ih => simp [byteCount, ih, Nat.add_comm]

/-- The longest beginning that takes up no more than `room` bytes. -/
def fitting : (room : Nat) → List Char → List Char
  | _, [] => []
  | room, c :: rest => if c.utf8Size ≤ room then c :: fitting (room - c.utf8Size) rest else []

theorem byteCount_fitting_le (room : Nat) (cs : List Char) :
    byteCount (fitting room cs) ≤ room := by
  induction cs generalizing room with
  | nil => simp [fitting, byteCount]
  | cons c rest ih =>
    rw [fitting]
    split
    next fits =>
      have tail := ih (room - c.utf8Size)
      simp only [byteCount]
      omega
    next => simp [byteCount]

theorem fitting_isPrefix (room : Nat) (cs : List Char) : (fitting room cs).IsPrefix cs := by
  induction cs generalizing room with
  | nil => simp [fitting]
  | cons c rest ih =>
    rw [fitting]
    split
    next => exact List.cons_prefix_cons.mpr ⟨rfl, ih _⟩
    next => exact List.nil_prefix

/-- What stands for the middle that is left out. -/
def gapMark : List Char := ['.', '.', '.']

/-- The text, if it takes up no more than `limit` bytes; else as much of both its ends. Of an odd
limit the beginning has the greater part, and of an even one both ends together fall one short. -/
def abridged (limit : Nat) (text : List Char) : List Char :=
  if byteCount text ≤ limit then text
  else
    let half := (limit + 1) / 2
    fitting half text ++ gapMark ++ (fitting (half - 1) text.reverse).reverse

theorem abridged_of_le {limit : Nat} {text : List Char} (h : byteCount text ≤ limit) :
    abridged limit text = text := if_pos h

theorem byteCount_abridged_le (limit : Nat) (text : List Char) :
    byteCount (abridged limit text) ≤ limit + byteCount gapMark := by
  rw [abridged]
  split
  · omega
  · have first := byteCount_fitting_le ((limit + 1) / 2) text
    have last := byteCount_fitting_le ((limit + 1) / 2 - 1) text.reverse
    simp only [byteCount_append, byteCount_reverse]
    omega

end DriveDepot.Text
