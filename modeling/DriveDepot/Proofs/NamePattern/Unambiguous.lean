import Mathlib.Logic.ExistsUnique
import DriveDepot.Proofs.NamePattern

/-!
What a name tells. The names of databases, transactions and actions are put together from fixed
words, a client and a number, those of actions from the kind of the action as well. No client holds
a hyphen and no number does, so that the hyphens of such a name tell its parts apart.
-/

namespace DriveDepot

/-- A client and a number, as they end a name. -/
@[ext]
structure Signature where
  client : String
  number : String
  client_nonempty : client ≠ ""
  client_closed : '-' ∉ client.toList
  number_nonempty : number ≠ ""
  number_digits : ∀ c ∈ number.toList, Text.isDecimalDigit c = true

def Signature.text (signature : Signature) : String := signature.client ++ "-" ++ signature.number

inductive ActionKind
  | up
  | down
  | cleanup
  deriving DecidableEq, Repr

def ActionKind.word : ActionKind → String
  | .up => "up"
  | .down => "down"
  | .cleanup => "cleanup"

def databaseName (signature : Signature) : String := "db-" ++ signature.text

def transactionName (signature : Signature) : String := "transaction-" ++ signature.text

def actionName (kind : ActionKind) (signature : Signature) : String :=
  "action-" ++ kind.word ++ "-" ++ signature.text

/-- What stands before the first hyphen and what follows it. -/
theorem eq_of_append_hyphen {first other rest others : List Char} (closed : '-' ∉ first)
    (closedOther : '-' ∉ other) (same : first ++ '-' :: rest = other ++ '-' :: others) :
    first = other ∧ rest = others := by
  have before {part : List Char} (closed : '-' ∉ part) (after : List Char) :
      (part ++ '-' :: after).takeWhile (· ≠ '-') = part := by
    rw [List.takeWhile_append_of_pos, List.takeWhile_cons_of_neg, List.append_nil]
    · simp
    · rintro c member
      simpa using ne_of_mem_of_not_mem member closed
  have parts : first = other := by
    rw [← before closed rest, same, before closedOther]
  rw [parts] at same
  exact ⟨parts, (List.cons.inj (List.append_cancel_left same)).2⟩

namespace Signature

theorem toList_text (signature : Signature) :
    signature.text.toList = signature.client.toList ++ '-' :: signature.number.toList := by
  simp [text]

theorem text_injective : Function.Injective text := by
  intro signature other same
  have same := congrArg String.toList same
  rw [toList_text, toList_text] at same
  obtain ⟨client, number⟩ := eq_of_append_hyphen signature.client_closed other.client_closed same
  exact Signature.ext (String.toList_injective client) (String.toList_injective number)

end Signature

namespace ActionKind

theorem closed (kind : ActionKind) : '-' ∉ kind.word.toList := by cases kind <;> decide

theorem word_injective : Function.Injective word := by
  intro kind other same
  cases kind <;> cases other <;> simp [word] at same ⊢

theorem mem_language {text : List Char} :
    text ∈ (NamePattern.Piece.oneOf ["up", "down", "cleanup"]).language ↔
      ∃ kind : ActionKind, kind.word.toList = text := by
  constructor
  · rintro ⟨word, member, rfl⟩
    simp only [List.mem_cons, List.not_mem_nil, or_false] at member
    obtain rfl | rfl | rfl := member
    · exact ⟨.up, rfl⟩
    · exact ⟨.down, rfl⟩
    · exact ⟨.cleanup, rfl⟩
  · rintro ⟨kind, rfl⟩
    exact ⟨kind.word, by cases kind <;> simp [word], rfl⟩

end ActionKind

namespace NamePattern

theorem mem_language_cons {piece : Piece} {others : NamePattern} {cs : List Char} :
    cs ∈ language (piece :: others) ↔
      ∃ first ∈ piece.language, ∃ rest ∈ others.language, first ++ rest = cs :=
  Language.mem_mul

theorem mem_language_word {word : String} {others : NamePattern} {cs : List Char} :
    cs ∈ language (.oneOf [word] :: others) ↔
      ∃ rest ∈ others.language, word.toList ++ rest = cs := by
  rw [mem_language_cons]
  constructor
  · rintro ⟨_, ⟨only, member, rfl⟩, whole⟩
    obtain rfl := List.mem_singleton.mp member
    exact whole
  · rintro whole
    exact ⟨_, ⟨word, List.mem_singleton_self _, rfl⟩, whole⟩

theorem mem_language_run {chars : CharClass} {cs : List Char} :
    cs ∈ language [.run chars] ↔ cs ≠ [] ∧ ∀ c ∈ cs, chars.contains c = true := by
  rw [language, List.map_singleton, List.prod_singleton]
  rfl

/-- The end of the patterns for names that tell a client and a number. -/
def signature : NamePattern := [.run .notHyphen, .oneOf ["-"], .run .decimalDigit]

theorem mem_signature {cs : List Char} :
    cs ∈ signature.language ↔ ∃ parts : Signature, parts.text.toList = cs := by
  rw [signature, mem_language_cons]
  constructor
  · rintro ⟨client, ⟨named, closed⟩, rest, member, rfl⟩
    obtain ⟨number, run, rfl⟩ := mem_language_word.mp member
    obtain ⟨counted, digits⟩ := mem_language_run.mp run
    refine ⟨⟨String.ofList client, String.ofList number, by simpa using named, ?_,
      by simpa using counted, ?_⟩, by simp [Signature.toList_text]⟩
    · rw [String.toList_ofList]
      intro hyphen
      cases closed _ hyphen
    · rw [String.toList_ofList]
      exact digits
  · rintro ⟨parts, rfl⟩
    refine ⟨parts.client.toList, ⟨by simpa using parts.client_nonempty, ?_⟩,
      '-' :: parts.number.toList, ?_, parts.toList_text.symm⟩
    · intro c member
      simpa [CharClass.contains] using ne_of_mem_of_not_mem member parts.client_closed
    · exact mem_language_word.mpr ⟨_, mem_language_run.mpr
        ⟨by simpa using parts.number_nonempty, parts.number_digits⟩, rfl⟩

end NamePattern

namespace Category

open NamePattern

variable {name : String}

/-- The names of the category are those that are written from parts, and each from one choice of
them. -/
def WrittenFrom (category : Category) (write : α → String) : Prop :=
  (∀ name, category.accepts name = true → ∃! parts, name = write parts) ∧
    ∀ parts, category.accepts (write parts) = true

theorem WrittenFrom.of_iff {category : Category} {write : α → String}
    (accepts : ∀ name, category.accepts name = true ↔ ∃ parts, write parts = name)
    (injective : Function.Injective write) : category.WrittenFrom write := by
  refine ⟨fun name accepted => ?_, fun parts => (accepts _).mpr ⟨parts, rfl⟩⟩
  obtain ⟨parts, rfl⟩ := (accepts name).mp accepted
  exact ⟨parts, rfl, fun _ same => (injective same).symm⟩

/-- A fixed word, and then a client and a number. -/
theorem writtenFrom_signature {category : Category} {word : String}
    (pattern : category.pattern = .oneOf [word] :: signature) :
    category.WrittenFrom fun parts : Signature => word ++ parts.text := by
  refine .of_iff (fun name => NamePattern.accepts_iff.trans ?_) fun _ _ same =>
    Signature.text_injective ((String.append_right_inj word).mp same)
  rw [pattern, mem_language_word]
  constructor
  · rintro ⟨rest, member, whole⟩
    obtain ⟨parts, rfl⟩ := mem_signature.mp member
    exact ⟨parts, String.toList_injective (by rw [String.toList_append, whole])⟩
  · rintro ⟨parts, rfl⟩
    exact ⟨_, mem_signature.mpr ⟨parts, rfl⟩, (String.toList_append ..).symm⟩

theorem toList_actionName (kind : ActionKind) (parts : Signature) :
    (actionName kind parts).toList =
      "action-".toList ++ (kind.word.toList ++ '-' :: parts.text.toList) := by
  simp [actionName]

theorem actionName_injective : Function.Injective fun parts : ActionKind × Signature =>
    actionName parts.1 parts.2 := by
  rintro ⟨kind, parts⟩ ⟨other, others⟩ same
  have same := congrArg String.toList same
  rw [toList_actionName, toList_actionName] at same
  obtain ⟨kinds, texts⟩ :=
    eq_of_append_hyphen kind.closed other.closed (List.append_cancel_left same)
  exact Prod.ext (ActionKind.word_injective (String.toList_injective kinds))
    (Signature.text_injective (String.toList_injective texts))

theorem writtenFrom_action :
    Category.action.WrittenFrom fun parts : ActionKind × Signature =>
      actionName parts.1 parts.2 := by
  refine .of_iff (fun name => NamePattern.accepts_iff.trans ?_) actionName_injective
  have pattern : Category.action.pattern = .oneOf ["action-"] ::
      .oneOf ["up", "down", "cleanup"] :: .oneOf ["-"] :: signature := rfl
  rw [pattern, mem_language_word]
  constructor
  · rintro ⟨_, afterWord, whole⟩
    obtain ⟨_, kinds, _, afterKind, rfl⟩ := mem_language_cons.mp afterWord
    obtain ⟨kind, rfl⟩ := ActionKind.mem_language.mp kinds
    obtain ⟨_, afterHyphen, rfl⟩ := mem_language_word.mp afterKind
    obtain ⟨parts, rfl⟩ := mem_signature.mp afterHyphen
    exact ⟨(kind, parts), String.toList_injective ((toList_actionName ..).trans whole)⟩
  · rintro ⟨⟨kind, parts⟩, rfl⟩
    have afterKind : '-' :: parts.text.toList ∈ language (.oneOf ["-"] :: signature) :=
      mem_language_word.mpr ⟨_, mem_signature.mpr ⟨parts, rfl⟩, rfl⟩
    have kinds := ActionKind.mem_language.mpr ⟨kind, rfl⟩
    exact ⟨_, mem_language_cons.mpr ⟨_, kinds, _, afterKind, rfl⟩, (toList_actionName ..).symm⟩

theorem accepts_generic_iff :
    Category.generic.accepts name = true ↔ name ≠ "" ∧ '\n' ∉ name.toList := by
  have pattern : Category.generic.pattern = [.run .notLineFeed] := rfl
  refine NamePattern.accepts_iff.trans ?_
  rw [pattern, mem_language_run, ne_eq, String.toList_eq_nil_iff]
  refine and_congr_right fun _ => ⟨fun other feed => ?_, fun absent c member => ?_⟩
  · cases other _ feed
  · simpa [CharClass.contains] using ne_of_mem_of_not_mem member absent

theorem not_accepts_empty (category : Category) : category.accepts "" = false := by
  cases category <;> decide +kernel

/-- At most one category other than the generic one accepts a name. The name of a database, of a
transaction or of an action can be read in one way only, and whatever can be read so is one. Every
name without a line feed is a generic one as well. -/
theorem names_unambiguous :
    (∀ (name : String) (category other : Category), category ≠ .generic → other ≠ .generic →
      category.accepts name = true → other.accepts name = true → category = other) ∧
    Category.metadataDb.WrittenFrom databaseName ∧
    Category.transaction.WrittenFrom transactionName ∧
    Category.action.WrittenFrom (fun parts : ActionKind × Signature =>
      actionName parts.1 parts.2) ∧
    ∀ (name : String) (category : Category), category.accepts name = true →
      '\n' ∉ name.toList → Category.generic.accepts name = true := by
  refine ⟨fun _ _ _ => eq_of_accepts, writtenFrom_signature rfl, writtenFrom_signature rfl,
    writtenFrom_action, fun name category accepted single => ?_⟩
  refine accepts_generic_iff.mpr ⟨?_, single⟩
  rintro rfl
  cases (not_accepts_empty category).symm.trans accepted

/-- A client with a line feed and a number in digits of two scripts. -/
theorem names_unambiguous_cleanup :
    Category.action.accepts "action-cleanup-a\nb-1\u0663" = true ∧
      (∃! parts : ActionKind × Signature,
        "action-cleanup-a\nb-1\u0663" = actionName parts.1 parts.2) ∧
      ∀ category ≠ Category.generic, category.accepts "action-cleanup-a\nb-1\u0663" = true →
        category = .action := by
  have accepted : Category.action.accepts "action-cleanup-a\nb-1\u0663" = true := by
    decide +kernel
  obtain ⟨only, _, _, ⟨read, _⟩, _⟩ := names_unambiguous
  exact ⟨accepted, read _ accepted,
    fun category special also => only _ _ _ special (by decide) also accepted⟩

end Category

end DriveDepot
