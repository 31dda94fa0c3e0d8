import Mathlib.Data.List.DropRight
import DriveDepot.Text

namespace DriveDepot.Text

structure Unpadded (cs : List Char) : Prop where
  head : ∀ c ∈ cs.head?, isBlank c = false
  last : ∀ c ∈ cs.getLast?, isBlank c = false

instance (cs : List Char) : Decidable (Unpadded cs) :=
  decidable_of_iff ((cs.head?.toList.all fun c => !isBlank c) ∧
      cs.getLast?.toList.all fun c => !isBlank c)
    ⟨fun ⟨head, last⟩ => ⟨by simpa using head, by simpa using last⟩,
      fun ⟨head, last⟩ => ⟨by simpa using head, by simpa using last⟩⟩

/-- The second text is the first one without the blanks around it. -/
def Trimmed (cs inner : List Char) : Prop :=
  Unpadded inner ∧ ∃ before after, cs = before ++ inner ++ after ∧
    (∀ c ∈ before, isBlank c = true) ∧ ∀ c ∈ after, isBlank c = true

variable {cs inner : List Char}

theorem head_dropWhile (cs : List Char) :
    ∀ c ∈ (cs.dropWhile isBlank).head?, isBlank c = false := by
  intro c first
  have stopped := List.head?_dropWhile_not isBlank cs
  rw [first] at stopped
  exact stopped

theorem dropWhile_of_head (head : ∀ c ∈ cs.head?, isBlank c = false) :
    cs.dropWhile isBlank = cs := by
  cases cs with
  | nil => rfl
  | cons c rest => exact List.dropWhile_cons_of_neg (by simp [head c rfl])

theorem trimmed_trimChars (cs : List Char) : Trimmed cs (trimChars cs) := by
  have parted : trimChars cs ++ (cs.dropWhile isBlank).rtakeWhile isBlank =
      cs.dropWhile isBlank := List.rdropWhile_append_rtakeWhile
  refine ⟨⟨fun c first => head_dropWhile cs c ?_, fun c last => ?_⟩,
    cs.takeWhile isBlank, (cs.dropWhile isBlank).rtakeWhile isBlank, ?_,
    fun _ => List.mem_takeWhile_imp, fun _ => List.mem_rtakeWhile_imp⟩
  · rw [← parted, List.head?_append, first]
    rfl
  · rw [trimChars, List.getLast?_reverse] at last
    exact head_dropWhile _ c last
  · rw [List.append_assoc, parted, List.takeWhile_append_dropWhile]

theorem Trimmed.eq (h : Trimmed cs inner) : trimChars cs = inner := by
  obtain ⟨unpadded, before, after, rfl, blank, blankAfter⟩ := h
  have front : (before ++ inner ++ after).dropWhile isBlank =
      (inner ++ after).dropWhile isBlank := by
    rw [List.append_assoc, List.dropWhile_append_of_pos blank]
  have back : (inner ++ after).reverse.dropWhile isBlank = inner.reverse := by
    rw [List.reverse_append, List.dropWhile_append_of_pos (by simpa using blankAfter),
      dropWhile_of_head (by simpa using unpadded.last)]
  rw [trimChars, front]
  cases inner with
  | nil => simp [List.dropWhile_eq_nil_iff.mpr blankAfter]
  | cons c rest =>
    have kept : (c :: rest ++ after).dropWhile isBlank = c :: rest ++ after :=
      dropWhile_of_head unpadded.head
    rw [kept, back, List.reverse_reverse]

theorem trimChars_eq_iff : trimChars cs = inner ↔ Trimmed cs inner :=
  ⟨fun same => same ▸ trimmed_trimChars cs, Trimmed.eq⟩

theorem Unpadded.trimmed (unpadded : Unpadded cs) : Trimmed cs cs :=
  ⟨unpadded, [], [], by simp⟩

theorem trimChars_eq_nil_iff : trimChars cs = [] ↔ ∀ c ∈ cs, isBlank c = true := by
  rw [trimChars_eq_iff]
  constructor
  · rintro ⟨_, before, after, rfl, blank, blankAfter⟩ c member
    obtain member | member := List.mem_append.mp member
    · exact blank c (by simpa using member)
    · exact blankAfter c member
  · exact fun blank => ⟨⟨by simp, by simp⟩, cs, [], by simp, blank, by simp⟩

theorem unifyNewlines_of_not_mem (absent : '\r' ∉ cs) : unifyNewlines cs = cs := by
  induction cs with
  | nil => rfl
  | cons c rest ih =>
    obtain ⟨other, later⟩ := not_or.mp fun member => absent (List.mem_cons.mpr member)
    rw [unifyNewlines.eq_3 _ _ (fun _ same => absurd same.symm other) (Ne.symm other), ih later]

theorem return_not_mem_unifyNewlines (cs : List Char) : '\r' ∉ unifyNewlines cs := by
  fun_induction unifyNewlines cs with
  | case1 rest ih => simpa using ih
  | case2 rest other ih => simpa using ih
  | case3 c rest _ other ih => simpa using ⟨Ne.symm other, ih⟩
  | case4 => simp

/-- What is taken from a file that holds a text is the text itself. -/
theorem trimmed_unifyNewlines_self_iff :
    Trimmed (unifyNewlines cs) cs ↔ Unpadded cs ∧ '\r' ∉ cs := by
  constructor
  · rintro ⟨unpadded, before, after, whole, _⟩
    refine ⟨unpadded, fun member => return_not_mem_unifyNewlines cs ?_⟩
    rw [whole]
    simp [member]
  · rintro ⟨unpadded, absent⟩
    rw [unifyNewlines_of_not_mem absent]
    exact unpadded.trimmed

end DriveDepot.Text
