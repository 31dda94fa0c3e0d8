import DriveDepot.NamePattern
import Mathlib.Computability.Language

namespace DriveDepot

namespace NamePattern

/-- The texts that a piece stands for. -/
def Piece.language : Piece → Language Char
  | .oneOf words => {text | ∃ word ∈ words, word.toList = text}
  | .run chars => {text | text ≠ [] ∧ ∀ c ∈ text, chars.contains c = true}

/-- The texts that have a part for each piece, in order, and nothing else. -/
def language (pattern : NamePattern) : Language Char := (pattern.map Piece.language).prod

/-- What stands before a rest is empty or begins with the first character. -/
theorem exists_append_eq_cons {P : List Char → Prop} {c : Char} {rest cs : List Char} :
    (∃ first, P first ∧ first ++ rest = c :: cs) ↔
      (P [] ∧ rest = c :: cs) ∨ ∃ first, P (c :: first) ∧ first ++ rest = cs := by
  constructor
  · rintro ⟨_ | ⟨d, first⟩, holds, whole⟩
    · exact .inl ⟨holds, whole⟩
    · obtain ⟨rfl, others⟩ := List.cons.inj whole
      exact .inr ⟨first, holds, others⟩
  · rintro (⟨holds, rfl⟩ | ⟨first, holds, rfl⟩)
    · exact ⟨[], holds, rfl⟩
    · exact ⟨c :: first, holds, rfl⟩

theorem mem_restsOfRun {chars : CharClass} {cs rest : List Char} :
    rest ∈ restsOfRun chars cs ↔
      ∃ run, (∀ c ∈ run, chars.contains c = true) ∧ run ++ rest = cs := by
  induction cs with
  | nil => simp +contextual [restsOfRun, List.append_eq_nil_iff]
  | cons c cs ih =>
    rw [exists_append_eq_cons, restsOfRun]
    by_cases first : chars.contains c = true <;> simp [first, ih]

/-- A piece leaves what follows a text that it stands for. -/
theorem Piece.mem_rests {piece : Piece} {cs rest : List Char} :
    rest ∈ piece.rests cs ↔ ∃ first ∈ piece.language, first ++ rest = cs := by
  cases piece with
  | oneOf words =>
    simp only [rests, List.mem_filterMap, List.isPrefixOf?_eq_some_iff_append_eq]
    constructor
    · rintro ⟨word, member, whole⟩
      exact ⟨word.toList, ⟨word, member, rfl⟩, whole⟩
    · rintro ⟨_, ⟨word, member, rfl⟩, whole⟩
      exact ⟨word, member, whole⟩
  | run chars =>
    change _ ↔ ∃ first, (first ≠ [] ∧ ∀ c ∈ first, chars.contains c = true) ∧ first ++ rest = cs
    cases cs with
    | nil => simp +contextual [rests, List.append_eq_nil_iff]
    | cons c cs =>
      rw [exists_append_eq_cons, rests]
      by_cases first : chars.contains c = true <;> simp [first, mem_restsOfRun]

/-- A pattern matches the texts of its language. -/
theorem matchesAll_iff {pattern : NamePattern} {cs : List Char} :
    pattern.matchesAll cs = true ↔ cs ∈ pattern.language := by
  induction pattern generalizing cs with
  | nil => simp [matchesAll, language, Language.mem_one]
  | cons piece others ih =>
    rw [matchesAll, List.any_eq_true, language, List.map_cons, List.prod_cons, Language.mem_mul]
    constructor
    · rintro ⟨rest, left, matched⟩
      obtain ⟨first, member, whole⟩ := Piece.mem_rests.mp left
      exact ⟨first, member, rest, ih.mp matched, whole⟩
    · rintro ⟨first, member, rest, matched, whole⟩
      exact ⟨rest, Piece.mem_rests.mpr ⟨first, member, whole⟩, ih.mpr matched⟩

instance (pattern : NamePattern) : DecidablePred (· ∈ pattern.language) :=
  fun _ => decidable_of_iff _ matchesAll_iff

theorem accepts_iff {pattern : NamePattern} {name : String} :
    pattern.accepts name = true ↔ name.toList ∈ pattern.language :=
  matchesAll_iff

/-- What every name begins with, as far as the first piece fixes it. -/
def opening : NamePattern → List Char
  | .oneOf [word] :: _ => word.toList
  | _ => []

theorem starts_with_opening {pattern : NamePattern} {cs : List Char}
    (member : cs ∈ pattern.language) : pattern.opening <+: cs := by
  unfold opening
  split
  · obtain ⟨_, ⟨word, only, rfl⟩, rest, _, rfl⟩ := Language.mem_mul.mp member
    obtain rfl := List.mem_singleton.mp only
    exact List.prefix_append _ _
  · exact List.nil_prefix

end NamePattern

namespace Category

theorem starts_with_opening {category : Category} {name : String}
    (accepted : category.accepts name = true) : category.pattern.opening <+: name.toList :=
  NamePattern.starts_with_opening (NamePattern.accepts_iff.mp accepted)

/-- No two kinds of names open alike, other than the generic ones. -/
theorem openings_apart : ∀ category ∈ all, ∀ other ∈ all, category ≠ .generic → other ≠ .generic →
    category.pattern.opening <+: other.pattern.opening → category = other := by
  decide +kernel

/-- Whatever begins like the names of a category is no name of another one. -/
theorem eq_of_openings {category other : Category} {cs : List Char}
    (special : category ≠ .generic) (specialOther : other ≠ .generic)
    (begun : category.pattern.opening <+: cs) (begunOther : other.pattern.opening <+: cs) :
    category = other := by
  obtain ahead | behind := List.prefix_or_prefix_of_prefix begun begunOther
  · exact openings_apart _ (mem_all _) _ (mem_all _) special specialOther ahead
  · exact (openings_apart _ (mem_all _) _ (mem_all _) specialOther special behind).symm

/-- At most one category other than the generic one accepts a name. -/
theorem eq_of_accepts {category other : Category} {name : String}
    (special : category ≠ .generic) (specialOther : other ≠ .generic)
    (accepted : category.accepts name = true) (acceptedOther : other.accepts name = true) :
    category = other :=
  eq_of_openings special specialOther (starts_with_opening accepted)
    (starts_with_opening acceptedOther)

end Category

end DriveDepot
