import DriveDepot.Json.Reader
import DriveDepot.Json.Writer

/-!
Reading back what was written as JSON with a line for each field. The writer escapes the quote, the
backslash and every control character, among them the two that end lines. So the reader finds the
closing quote where it was put, and a line ends only between two fields.
-/

namespace DriveDepot.Text

theorem hexValue?_hexDigit {n : Nat} (small : n < 16) : hexValue? (hexDigit n) = some n := by
  have all : ∀ d < 16, hexValue? (hexDigit d) = some d := by decide
  exact all n small

theorem hexDigit_ne_return (n : Nat) : hexDigit n ≠ '\r' := by
  by_cases small : n < 16
  · have all : ∀ d < 16, hexDigit d ≠ '\r' := by decide
    exact all n small
  · have above : "0123456789abcdef".toList.length ≤ n := Nat.le_of_not_lt small
    rw [hexDigit, List.getD_eq_getElem?_getD, List.getElem?_eq_none above]
    decide

@[simp] theorem isCharacter_toNat (c : Char) : isCharacter c.toNat = true :=
  decide_eq_true c.valid

/-- The code points of a text make up the text. -/
theorem ofCodes_toNat (s : String) : ofCodes (s.toList.map Char.toNat) = s := by
  simp [ofCodes, Function.comp_def]

end DriveDepot.Text

namespace DriveDepot.Json

open DriveDepot.Text (hexPair)
open Writer (escapeChar stringText newLine lines fieldLines)

theorem ofCodes_toNat (s : String) : ofCodes (s.toList.map Char.toNat) = .string s := by
  rw [ofCodes, Text.ofCodes_toNat, if_pos]
  simp [Text.isCharacter_toNat]

/-- Null, a truth value or a text. -/
def IsPlain : Json → Prop
  | .null | .bool _ | .string _ => True
  | _ => False

theorem setField_of_not_mem {key : String} {value : Json} {fields : List (String × Json)}
    (new : key ∉ fields.map Prod.fst) : setField key value fields = fields ++ [(key, value)] := by
  induction fields with
  | nil => rfl
  | cons field rest ih =>
    obtain ⟨other, later⟩ := not_or.mp fun member => new (List.mem_cons.mpr member)
    rw [setField, if_neg (Ne.symm other), ih later]
    rfl

namespace Reader

theorem codeUnit_hexPair {n : Nat} (small : n < 0x20) :
    codeUnit '0' '0' (Text.hexDigit (n / 16)) (Text.hexDigit (n % 16)) = some n := by
  have zero : Text.hexValue? '0' = some 0 := by decide
  rw [codeUnit, zero, Text.hexValue?_hexDigit (by omega), Text.hexValue?_hexDigit (by omega)]
  simp only [Option.bind_eq_bind, Option.bind_some, Option.pure_def]
  congr 1
  omega

/-- The escape of a character is read as the character. -/
theorem stringBody_escapeChar (c : Char) (rest : List Char) :
    stringBody none (escapeChar c ++ rest) =
      (stringBody none rest).map fun (codes, after) => (c.toNat :: codes, after) := by
  have short {letter : Char} (known : shortEscape letter = some c) (other : letter ≠ 'u') :
      stringBody none ('\\' :: letter :: rest) =
        (stringBody none rest).map fun (codes, after) => (c.toNat :: codes, after) := by
    rw [stringBody.eq_4 _ _ _ (fun _ _ _ _ _ same => absurd same other), known]
    cases stringBody none rest <;> rfl
  unfold escapeChar
  split
  · exact short (by subst c; rfl) (by decide)
  split
  · exact short (by subst c; rfl) (by decide)
  split
  · exact short (by subst c; rfl) (by decide)
  split
  · exact short (by subst c; rfl) (by decide)
  split
  · exact short (by subst c; rfl) (by decide)
  split
  · exact short (by subst c; rfl) (by decide)
  split
  · exact short (by subst c; rfl) (by decide)
  split
  · rename_i control
    have low : isHighSurrogate c.toNat = false := by
      simp only [isHighSurrogate, Bool.and_eq_false_iff, decide_eq_false_iff_not]
      omega
    simp only [hexPair, List.cons_append, List.nil_append]
    rw [stringBody, codeUnit_hexPair control]
    simp only [Option.bind_eq_bind, Option.bind_some, low, Bool.false_eq_true, ↓reduceIte,
      escapedUnit, Option.toList_none, List.nil_append, Option.pure_def, List.cons_append]
    cases stringBody none rest <;> rfl
  · rename_i quote backslash _ _ _ _ _ printable
    rw [List.singleton_append, stringBody.eq_5 _ _ _ quote (by simp [backslash])
      (by simp [backslash]), if_neg printable]
    cases stringBody none rest <;> rfl

/-- A string that was written is read up to its closing quote. -/
theorem stringBody_escaped (text rest : List Char) :
    stringBody none (text.flatMap escapeChar ++ '"' :: rest) =
      some (text.map Char.toNat, rest) := by
  induction text with
  | nil => rfl
  | cons c text ih =>
    rw [List.flatMap_cons, List.append_assoc, stringBody_escapeChar, ih]
    rfl

theorem stringOrDefect_stringText (s : String) (rest : List Char) :
    stringOrDefect (s.toList.flatMap escapeChar ++ '"' :: rest) =
      .ok (s.toList.map Char.toNat, rest) := by
  rw [stringOrDefect, stringBody_escaped]

theorem stringText_append (s : String) (rest : List Char) :
    stringText s ++ rest = '"' :: (s.toList.flatMap escapeChar ++ '"' :: rest) := by
  simp [stringText]

/-- A word is read whatever follows it. -/
theorem scalar_word {w : List Char} {v : Json} (known : (w, v) ∈ words) (rest : List Char) :
    scalar (w ++ rest) = .ok (v, rest) := by
  simp only [words, List.mem_cons, Prod.mk.injEq, List.not_mem_nil, or_false] at known
  obtain ⟨rfl, rfl⟩ | ⟨rfl, rfl⟩ | ⟨rfl, rfl⟩ | ⟨rfl, rfl⟩ | ⟨rfl, rfl⟩ | ⟨rfl, rfl⟩ := known <;>
    rfl

theorem value_lines {v : Json} (plain : v.IsPlain) (budget room depth : Nat) (rest : List Char) :
    value (budget + 1) room (lines depth v ++ rest) = .ok (v, rest) := by
  cases v with
  | null => exact scalar_word (w := "null".toList) (by simp [words]) rest
  | bool b =>
    cases b with
    | false => exact scalar_word (w := "false".toList) (by simp [words]) rest
    | true => exact scalar_word (w := "true".toList) (by simp [words]) rest
  | string s =>
    rw [lines, Writer.scalarText, stringText_append, value, stringOrDefect_stringText]
    · exact congrArg (fun v => Except.ok (v, rest)) (ofCodes_toNat s)
    all_goals simp
  | _ => exact absurd plain id

theorem skipSpace_newLine (depth : Nat) (rest : List Char) :
    skipSpace (newLine depth ++ rest) = skipSpace rest := by
  have blank : ∀ c ∈ newLine depth, isSpace c = true := by
    simp [newLine, isSpace]
  exact List.dropWhile_append_of_pos blank

theorem skipSpace_of_not_space {c : Char} (other : isSpace c = false) (rest : List Char) :
    skipSpace (c :: rest) = c :: rest := by
  rw [skipSpace, List.dropWhile_cons_of_neg (by simp [other])]

theorem skipSpace_lines {v : Json} (plain : v.IsPlain) (depth : Nat) (rest : List Char) :
    skipSpace (lines depth v ++ rest) = lines depth v ++ rest := by
  cases v with
  | null => exact skipSpace_of_not_space (by decide) _
  | bool b => cases b <;> exact skipSpace_of_not_space (by decide) _
  | string s =>
    have text : lines depth (.string s) = stringText s := by simp [lines, Writer.scalarText]
    rw [text, stringText_append]
    exact skipSpace_of_not_space (by decide) _
  | _ => exact absurd plain id

/-- A field that was written is read; what follows it decides how it goes on. -/
theorem fields_lines_cons {v : Json} (plain : v.IsPlain) (key : String) (budget room depth : Nat)
    (found : List (String × Json)) (rest : List Char) :
    fields (budget + 2) room found (stringText key ++ ':' :: ' ' :: lines depth v ++ rest) =
      match skipSpace rest with
      | '\x7d' :: after => .ok (setField key v found, after)
      | ',' :: rest => fields (budget + 1) room (setField key v found) (skipSpace rest)
      | _ => .error .malformed := by
  have colon : skipSpace (':' :: ' ' :: (lines depth v ++ rest)) =
      ':' :: ' ' :: (lines depth v ++ rest) := skipSpace_of_not_space (by decide) _
  have blank : skipSpace (' ' :: (lines depth v ++ rest)) = lines depth v ++ rest :=
    skipSpace_lines plain depth rest
  rw [List.append_assoc, stringText_append, fields, stringOrDefect_stringText]
  simp only [bind, Except.bind, List.cons_append, colon, blank, value_lines plain,
    Text.ofCodes_toNat]
  rfl

/-- Fields of different names that were written are read up to the closing brace. -/
theorem fields_fieldLines {written found : List (String × Json)} (some_field : written ≠ [])
    (plain : ∀ field ∈ written, field.2.IsPlain)
    (distinct : ((found ++ written).map Prod.fst).Nodup) {budget : Nat}
    (enough : written.length < budget) (room depth : Nat) {closing rest : List Char}
    (closed : skipSpace closing = '\x7d' :: rest) :
    fields budget room found (skipSpace (fieldLines depth written ++ closing)) =
      .ok (found ++ written, rest) := by
  induction written generalizing found budget with
  | nil => exact absurd rfl some_field
  | cons field others ih =>
    obtain ⟨key, v⟩ := field
    obtain ⟨budget, rfl⟩ : ∃ n, budget = n + 2 :=
      ⟨budget - 2, by rw [List.length_cons] at enough; omega⟩
    have first : v.IsPlain := plain (key, v) List.mem_cons_self
    have new : key ∉ found.map Prod.fst := by
      rw [List.map_append, List.nodup_append] at distinct
      exact fun member => distinct.2.2 key member key List.mem_cons_self rfl
    have begins (tail : List Char) : skipSpace (newLine depth ++ (stringText key ++ tail)) =
        stringText key ++ tail := by
      rw [skipSpace_newLine, stringText_append]
      exact skipSpace_of_not_space (by decide) _
    cases others with
    | nil =>
      rw [fieldLines, List.append_assoc, List.append_assoc, begins, ← List.append_assoc,
        fields_lines_cons first, closed, setField_of_not_mem new]
      rfl
    | cons next others =>
      have comma (tail : List Char) : skipSpace (',' :: tail) = ',' :: tail :=
        skipSpace_of_not_space (by decide) _
      have distinct' : ((found ++ [(key, v)] ++ next :: others).map Prod.fst).Nodup := by
        simpa using distinct
      have enough' : (next :: others).length < budget + 1 := by simpa using enough
      have later := ih (List.cons_ne_nil _ _)
        (fun field member => plain field (List.mem_cons_of_mem _ member)) distinct' enough'
      have split : fieldLines depth ((key, v) :: next :: others) ++ closing =
          newLine depth ++ (stringText key ++ (':' :: ' ' :: lines depth v ++
            (',' :: (fieldLines depth (next :: others) ++ closing)))) := by
        simp [fieldLines]
      rw [split, begins, ← List.append_assoc, fields_lines_cons first, comma,
        setField_of_not_mem new]
      simpa using later

theorem skipSpace_fieldLines (depth : Nat) (field : String × Json)
    (others : List (String × Json)) (closing : List Char) :
    ∃ tail, skipSpace (fieldLines depth (field :: others) ++ closing) = '"' :: tail := by
  obtain ⟨key, v⟩ := field
  obtain ⟨tail, begins⟩ : ∃ tail, fieldLines depth ((key, v) :: others) ++ closing =
      newLine depth ++ (stringText key ++ tail) := by
    cases others <;> exact ⟨_, by simp only [fieldLines, List.append_assoc]; rfl⟩
  rw [begins, skipSpace_newLine, stringText_append]
  exact ⟨_, skipSpace_of_not_space (by decide) _⟩

theorem length_le_fieldLines (depth : Nat) (written : List (String × Json)) :
    written.length ≤ (fieldLines depth written).length := by
  induction written with
  | nil => exact Nat.zero_le _
  | cons field others ih =>
    cases others with
    | nil => simp [fieldLines, newLine]
    | cons next others =>
      simp only [fieldLines, List.length_append, List.length_cons] at ih ⊢
      omega

/-- Behind an opening brace that a field follows, the fields are read. -/
theorem value_object {rest tail after : List Char} {found : List (String × Json)} {budget room : Nat}
    (begins : skipSpace rest = '"' :: tail)
    (inside : fields budget room [] ('"' :: tail) = .ok (found, after)) :
    value (budget + 1) (room + 1) ('\x7b' :: rest) = .ok (.object found, after) := by
  rw [value, begins]
  show (fields budget room [] ('"' :: tail) >>= _) = _
  rw [inside]
  rfl

end Reader

/-- An object of some plain fields is read back from its lines. -/
theorem ofText_lines {field : String × Json} {others : List (String × Json)}
    (plain : ∀ f ∈ field :: others, f.2.IsPlain)
    (distinct : ((field :: others).map Prod.fst).Nodup) :
    ofText (lines 0 (.object (field :: others))) = .ok (.object (field :: others)) := by
  have text : lines 0 (.object (field :: others)) =
      '\x7b' :: (fieldLines 1 (field :: others) ++ (newLine 0 ++ ['\x7d'])) := by
    simp [lines]
  obtain ⟨tail, begins⟩ := Reader.skipSpace_fieldLines 1 field others (newLine 0 ++ ['\x7d'])
  have inside (budget : Nat) (enough : (field :: others).length < budget) :
      Reader.fields budget 988 [] ('"' :: tail) = .ok (field :: others, []) := by
    rw [← begins]
    exact Reader.fields_fieldLines (List.cons_ne_nil _ _) plain distinct enough 988 1
      (Reader.skipSpace_newLine 0 _)
  have length := Reader.length_le_fieldLines 1 (field :: others)
  rw [ofText, text, Reader.skipSpace_of_not_space (by decide), Reader.nestingLimit,
    Reader.value_object begins (inside _ ?_)]
  · rfl
  · simp only [List.length_cons, List.length_append] at length ⊢
    omega

namespace Writer

theorem return_not_mem_escapeChar (c : Char) : '\r' ∉ escapeChar c := by
  have digit (n : Nat) : '\r' ≠ Text.hexDigit n := (Text.hexDigit_ne_return n).symm
  unfold escapeChar
  split
  · decide
  split
  · decide
  split
  · decide
  split
  · decide
  split
  · decide
  split
  · decide
  split
  · decide
  split
  · simp [hexPair, digit]
  · rename_i other _
    simpa using Ne.symm other

theorem return_not_mem_stringText (s : String) : '\r' ∉ stringText s := by
  simp [stringText, return_not_mem_escapeChar]

theorem return_not_mem_lines {v : Json} (plain : v.IsPlain) (depth : Nat) :
    '\r' ∉ lines depth v := by
  cases v with
  | null => simp [lines, scalarText]
  | bool b => cases b <;> simp [lines, scalarText]
  | string s => simpa [lines, scalarText] using return_not_mem_stringText s
  | _ => exact absurd plain id

theorem return_not_mem_fieldLines {written : List (String × Json)}
    (plain : ∀ field ∈ written, field.2.IsPlain) (depth : Nat) :
    '\r' ∉ fieldLines depth written := by
  induction written with
  | nil => simp [fieldLines]
  | cons field others ih =>
    obtain ⟨key, v⟩ := field
    have first := return_not_mem_lines (plain (key, v) List.mem_cons_self) depth
    have later := ih fun field member => plain field (List.mem_cons_of_mem _ member)
    cases others with
    | nil => simp [fieldLines, newLine, return_not_mem_stringText, first]
    | cons next others => simp [fieldLines, newLine, return_not_mem_stringText, first, later]

/-- Whatever line ends its texts hold, no line of the object ends with a carriage return. -/
theorem return_not_mem_lines_object {written : List (String × Json)}
    (plain : ∀ field ∈ written, field.2.IsPlain) (depth : Nat) :
    '\r' ∉ lines depth (.object written) := by
  cases written with
  | nil => simp [lines]
  | cons field others => simp [lines, newLine, return_not_mem_fieldLines plain]

end Writer

end DriveDepot.Json
