import Mathlib.Data.List.Infix
import DriveDepot.Proofs.Text
import DriveDepot.Settings.Environment

namespace DriveDepot.Environment

open DriveDepot.Text (isBlank Unpadded)

inductive Line
  | empty
  | comment (text : String)
  | bare (name value : String)
  | quoted (mark : Char) (name value : String)
  deriving DecidableEq, Repr

namespace Line

def text : Line → List Char
  | .empty => []
  | .comment text => '#' :: text.toList
  | .bare name value => name.toList ++ '=' :: value.toList
  | .quoted mark name value => name.toList ++ '=' :: mark :: (value.toList ++ [mark])

/-- The variable that the line sets. -/
def set? : Line → Option (String × String)
  | .empty | .comment _ => none
  | .bare name value | .quoted _ name value => some (name, value)

/-- A text without line ends. -/
def Single (text : List Char) : Prop := ∀ c ∈ text, c ≠ '\n' ∧ c ≠ '\r'

structure Name (name : List Char) : Prop where
  nonempty : name ≠ []
  plain : ∀ c ∈ name, c.isAlphanum = true ∨ c = '_'

/-- A value on one line that refers to no other variable. -/
structure Value (value : List Char) : Prop where
  single : Single value
  literal : ¬ ['$', '\x7b'] <:+: value

structure Bare (value : List Char) : Prop extends Value value where
  unpadded : Unpadded value
  unquoted : ∀ c ∈ value.head?, c ≠ '"' ∧ c ≠ '\x27'
  uncommented : ∀ c, isBlank c = true → ¬ [c, '#'] <:+: value

structure Quotable (mark : Char) (value : List Char) : Prop extends Value value where
  known : mark = '"' ∨ mark = '\x27'
  closed : mark ∉ value
  unescaped : '\\' ∉ value

section
variable {mark : Char} {text : List Char}

instance : Decidable (Single text) :=
  decidable_of_iff (text.all fun c => c ≠ '\n' && c ≠ '\r') (by simp [Single])

instance : Decidable (Name text) :=
  decidable_of_iff (text ≠ [] ∧ text.all fun c => c.isAlphanum || c = '_')
    ⟨fun ⟨nonempty, plain⟩ => ⟨nonempty, by simpa using plain⟩,
      fun ⟨nonempty, plain⟩ => ⟨nonempty, by simpa using plain⟩⟩

instance : Decidable (Value text) :=
  decidable_of_iff (Single text ∧ ¬ ['$', '\x7b'] <:+: text)
    ⟨fun ⟨single, literal⟩ => ⟨single, literal⟩, fun ⟨single, literal⟩ => ⟨single, literal⟩⟩

instance : Decidable (Bare text) :=
  decidable_of_iff (Value text ∧ Unpadded text ∧
      (text.head?.toList.all fun c => c ≠ '"' && c ≠ '\x27') ∧
      text.all fun c => !(isBlank c && decide ([c, '#'] <:+: text)))
    ⟨fun ⟨value, unpadded, unquoted, uncommented⟩ => by
        refine ⟨value, unpadded, by simpa using unquoted, fun c blank inside => ?_⟩
        have visible := List.all_eq_true.mp uncommented c (inside.subset (by simp))
        simp [blank, inside] at visible,
      fun ⟨value, unpadded, unquoted, uncommented⟩ => by
        refine ⟨value, unpadded, by simpa using unquoted, List.all_eq_true.mpr fun c _ => ?_⟩
        by_cases blank : isBlank c = true
        · simp [blank, uncommented c blank]
        · simp [blank]⟩

instance : Decidable (Quotable mark text) :=
  decidable_of_iff (Value text ∧ (mark = '"' ∨ mark = '\x27') ∧ mark ∉ text ∧ '\\' ∉ text)
    ⟨fun ⟨value, known, closed, unescaped⟩ => ⟨value, known, closed, unescaped⟩,
      fun ⟨value, known, closed, unescaped⟩ => ⟨value, known, closed, unescaped⟩⟩

end

inductive Simple : Line → Prop
  | empty : Simple .empty
  | comment {text : String} (single : Single text.toList) : Simple (.comment text)
  | bare {name value : String} (named : Name name.toList) (kept : Bare value.toList) :
      Simple (.bare name value)
  | quoted {mark : Char} {name value : String} (named : Name name.toList)
      (kept : Quotable mark value.toList) : Simple (.quoted mark name value)

end Line

/-- The text of the lines, with a line feed between any two of them. -/
def fileText (lines : List Line) : String :=
  String.ofList (['\n'].intercalate (lines.map Line.text))

/-- The variables that the lines set. Of several values for one spelling of a name the last counts,
in the place of the first. -/
def ofLines (lines : List Line) : Environment :=
  (lines.filterMap Line.set?).foldl (fun found (name, value) => found.set name value) []

theorem lines_of_not_mem {line : List Char} (single : '\n' ∉ line) : lines line = [line] := by
  induction line with
  | nil => rfl
  | cons c rest ih =>
    obtain ⟨other, later⟩ := not_or.mp fun member => single (List.mem_cons.mpr member)
    rw [lines, if_neg (Ne.symm other), ih later]

theorem lines_append_lineFeed {line : List Char} (single : '\n' ∉ line) (rest : List Char) :
    lines (line ++ '\n' :: rest) = line :: lines rest := by
  induction line with
  | nil => rfl
  | cons c line ih =>
    obtain ⟨other, later⟩ := not_or.mp fun member => single (List.mem_cons.mpr member)
    rw [List.cons_append, lines, if_neg (Ne.symm other), ih later]

theorem lines_intercalate {ls : List (List Char)} (some_line : ls ≠ [])
    (single : ∀ line ∈ ls, '\n' ∉ line) : lines (['\n'].intercalate ls) = ls := by
  induction ls with
  | nil => exact absurd rfl some_line
  | cons line ls ih =>
    obtain ⟨first, later⟩ := List.forall_mem_cons.mp single
    cases ls with
    | nil => simpa using lines_of_not_mem first
    | cons next ls =>
      rw [List.intercalate_cons_cons, List.append_assoc, List.singleton_append,
        lines_append_lineFeed first, ih (List.cons_ne_nil _ _) later]

theorem not_mem_intercalate {c : Char} {ls : List (List Char)} (other : c ≠ '\n')
    (absent : ∀ line ∈ ls, c ∉ line) : c ∉ ['\n'].intercalate ls := by
  induction ls with
  | nil => simp
  | cons line ls ih =>
    obtain ⟨first, later⟩ := List.forall_mem_cons.mp absent
    cases ls with
    | nil => simpa using first
    | cons next ls =>
      rw [List.intercalate_cons_cons]
      simp only [List.mem_append, List.mem_singleton, not_or]
      exact ⟨⟨first, other⟩, ih later⟩

theorem head?_intercalate_ne {c : Char} {ls : List (List Char)} (other : c ≠ '\n')
    (absent : ∀ line ∈ ls, line.head? ≠ some c) : (['\n'].intercalate ls).head? ≠ some c := by
  cases ls with
  | nil => simp
  | cons line ls =>
    have first := absent line (by simp)
    cases ls with
    | nil => simpa using first
    | cons next ls =>
      rw [List.intercalate_cons_cons, List.append_assoc, List.head?_append]
      cases line with
      | nil => simpa using other.symm
      | cons d line => simpa using first

theorem beforeComment_of_uncommented {value : List Char}
    (uncommented : ∀ c, isBlank c = true → ¬ [c, '#'] <:+: value) :
    beforeComment value = value := by
  fun_induction beforeComment value with
  | case1 => rfl
  | case2 => rfl
  | case3 c rest blank =>
    exact absurd (List.prefix_append [c, '#'] rest).isInfix (uncommented c blank)
  | case4 c rest visible ih =>
    have within := (List.suffix_append [c, '#'] rest).isInfix
    rw [ih fun d blank inside => uncommented d blank (inside.trans within)]
  | case5 c rest more other ih =>
    have within := (List.suffix_cons c rest).isInfix
    rw [ih fun d blank inside => uncommented d blank (inside.trans within)]

theorem untilQuote_append {mark : Char} {value : List Char} (proper : mark ≠ '\\')
    (closed : mark ∉ value) (unescaped : '\\' ∉ value) (rest : List Char) :
    untilQuote mark (value ++ mark :: rest) = some (value, rest) := by
  induction value with
  | nil =>
    rw [List.nil_append, untilQuote.eq_3 _ _ _ fun _ _ same => absurd same proper, if_pos rfl]
  | cons c value ih =>
    simp only [List.mem_cons, not_or] at closed unescaped
    rw [List.cons_append, untilQuote.eq_3 _ _ _ fun _ _ same => absurd same.symm unescaped.1,
      if_neg (Ne.symm closed.1), ih closed.2 unescaped.2]
    rfl

theorem unescape_of_not_mem (mark : Char) {value : List Char} (unescaped : '\\' ∉ value) :
    unescape mark value = value := by
  induction value with
  | nil => rfl
  | cons c value ih =>
    simp only [List.mem_cons, not_or] at unescaped
    rw [unescape.eq_2 _ _ _ fun _ _ same => absurd same.symm unescaped.1, ih unescaped.2]

theorem value_bare {text : List Char} (kept : Line.Bare text) : value text = some text := by
  have whole : value text = some (Text.trimChars (beforeComment text)) := by
    rw [value, Text.dropWhile_of_head kept.unpadded.head]
    split
    · cases (kept.unquoted _ rfl).2 rfl
    · cases (kept.unquoted _ rfl).1 rfl
    · rfl
  rw [whole, beforeComment_of_uncommented kept.uncommented, kept.unpadded.trimmed.eq]

theorem value_quoted {mark : Char} {text : List Char} (kept : Line.Quotable mark text) :
    value (mark :: (text ++ [mark])) = some text := by
  have read : quotedValue mark (text ++ [mark]) = some text := by
    have proper : mark ≠ '\\' := by obtain rfl | rfl := kept.known <;> decide
    rw [quotedValue, untilQuote_append proper kept.closed kept.unescaped]
    simp [unescape_of_not_mem mark kept.unescaped]
  rw [← read]
  obtain rfl | rfl := kept.known
  · rfl
  · rfl

theorem not_blank_of_plain {c : Char} (plain : c.isAlphanum = true ∨ c = '_') :
    isBlank c = false := by
  obtain plain | rfl := plain
  · have code : c.toNat = c.val.toNat := rfl
    delta Char.isAlphanum Char.isAlpha Char.isDigit Char.isUpper Char.isLower at plain
    simp [UInt32.le_iff_toNat_le] at plain
    simp [isBlank, Text.blankRanges]
    omega
  · decide

/-- A character that is none of those of a name. -/
theorem ne_of_plain {c special : Char} (plain : c.isAlphanum = true ∨ c = '_')
    (other : ¬ (special.isAlphanum = true ∨ special = '_')) : c ≠ special := by
  rintro rfl
  exact other plain

theorem assignment?_named {name : List Char} (named : Line.Name name) (rest : List Char) :
    assignment? (name ++ '=' :: rest) =
      (value rest).map fun found => (String.ofList name, String.ofList found) := by
  have front : (name ++ '=' :: rest).dropWhile isBlank = name ++ '=' :: rest := by
    refine Text.dropWhile_of_head fun c first => not_blank_of_plain (named.plain c ?_)
    rw [List.head?_append_of_ne_nil _ named.nonempty] at first
    exact List.mem_of_mem_head? first
  have read : (name ++ '=' :: rest).takeWhile
      (fun c => c ≠ '=' && c ≠ '#' && !isBlank c) = name := by
    rw [List.takeWhile_append_of_pos, List.takeWhile_cons_of_neg, List.append_nil]
    · simp
    · intro c member
      have plain := named.plain c member
      have unequal : c ≠ '=' := ne_of_plain plain (by decide)
      have unmarked : c ≠ '#' := ne_of_plain plain (by decide)
      simp [unequal, unmarked, not_blank_of_plain plain]
  have sign : ('=' :: rest).dropWhile isBlank = '=' :: rest :=
    List.dropWhile_cons_of_neg (by decide)
  simp only [assignment?, front, read, List.drop_left, sign]
  simp [named.nonempty]

theorem assignment?_text {line : Line} (simple : line.Simple) :
    assignment? line.text = line.set? := by
  cases simple with
  | empty => rfl
  | comment => rfl
  | bare named kept =>
    rw [Line.text, assignment?_named named, value_bare kept]
    simp [Line.set?]
  | quoted named kept =>
    rw [Line.text, assignment?_named named, value_quoted kept]
    simp [Line.set?]

theorem single_text {line : Line} (simple : line.Simple) : Line.Single line.text := by
  have start {name rest : List Char} (named : Line.Name name) (single : Line.Single rest) :
      Line.Single (name ++ '=' :: rest) := by
    refine List.forall_mem_append.mpr ⟨fun c member => ?_, List.forall_mem_cons.mpr ?_⟩
    · have plain := named.plain c member
      exact ⟨ne_of_plain plain (by decide), ne_of_plain plain (by decide)⟩
    · exact ⟨by decide, single⟩
  cases simple with
  | empty => exact List.forall_mem_nil _
  | comment single => exact List.forall_mem_cons.mpr ⟨by decide, single⟩
  | bare named kept => exact start named kept.single
  | quoted named kept =>
    have mark := kept.known
    refine start named (List.forall_mem_cons.mpr ⟨?_, List.forall_mem_append.mpr
      ⟨kept.single, List.forall_mem_singleton.mpr ?_⟩⟩)
    all_goals obtain rfl | rfl := mark <;> decide

theorem head?_text_ne {line : Line} (simple : line.Simple) :
    line.text.head? ≠ some '\uFEFF' := by
  have start {name rest : List Char} (named : Line.Name name) :
      (name ++ '=' :: rest).head? ≠ some '\uFEFF' := by
    rw [List.head?_append_of_ne_nil _ named.nonempty]
    intro first
    exact ne_of_plain (named.plain _ (List.mem_of_mem_head? first)) (by decide) rfl
  cases simple with
  | empty => simp [Line.text]
  | comment => simp [Line.text]
  | bare named => exact start named
  | quoted named => exact start named

/-- A simple file sets the variables that its lines set. -/
theorem ofText_fileText {lines : List Line} (simple : ∀ line ∈ lines, line.Simple) :
    ofText (fileText lines) = ofLines lines := by
  have texts (line) (member : line ∈ lines.map Line.text) :
      Line.Single line ∧ line.head? ≠ some '\uFEFF' := by
    obtain ⟨line, inside, rfl⟩ := List.mem_map.mp member
    exact ⟨single_text (simple line inside), head?_text_ne (simple line inside)⟩
  have absent : '\r' ∉ ['\n'].intercalate (lines.map Line.text) :=
    not_mem_intercalate (by decide) fun line member inside => ((texts line member).1 _ inside).2 rfl
  have unmarked : withoutByteOrderMark (['\n'].intercalate (lines.map Line.text)) =
      ['\n'].intercalate (lines.map Line.text) := by
    have head := head?_intercalate_ne (by decide) fun line member => (texts line member).2
    rw [withoutByteOrderMark.eq_def]
    split
    · rename_i first
      simp [first] at head
    · rfl
  rw [ofText, fileText, String.toList_ofList, unmarked, Text.unifyNewlines_of_not_mem absent]
  cases lines with
  | nil => rfl
  | cons line rest =>
    have single (text) (member : text ∈ (line :: rest).map Line.text) : '\n' ∉ text :=
      fun inside => ((texts text member).1 _ inside).1 rfl
    rw [lines_intercalate (by simp) single, List.filterMap_map, ofLines]
    congr 1
    exact List.filterMap_congr fun line member => assignment?_text (simple line member)

end DriveDepot.Environment
