import Underwriting.Proofs.Decimal.Alphabet
import Underwriting.Proofs.Text.Trimming
import Underwriting.Rule.Amount

/-!
The grammar of amount conditions. A text behind the floor operator is read as an amount is, only
without separators; it is refused for its characters or for its number, but never taken for a text
that asks for nothing.
-/

namespace Underwriting

open Text

theorem amountOfText_eq_ok_iff {text : String} {amount : Decimal} :
    amountOfText text = .ok amount ↔ Decimal.read (trim text.toList) = .ok amount := by
  unfold amountOfText
  cases Decimal.read (trim text.toList) <;> simp

namespace AmountRule

def Denotes (text : List Char) : AmountRule → Prop
  | .unrestricted => text = [] ∨ text = ['-', ' ', '-']
  | .unrecognized kept => text ≠ [] ∧ text ≠ ['-', ' ', '-'] ∧ ¬['>', '='] <+: text ∧
      kept = String.ofList text
  | .atLeast floor => ∃ literal, text = '>' :: '=' :: literal ∧
      amountOfText (String.ofList literal) = .ok floor ∧ '_' ∉ literal

def HasForeignChar (text : List Char) : Prop :=
  ∃ literal, text = '>' :: '=' :: literal ∧ ∃ char ∈ trim literal, ¬Decimal.IsLiteralChar char

theorem isThresholdChar_iff {char : Char} :
    isThresholdChar char = true ↔ Decimal.IsLiteralChar char := by
  simp [isThresholdChar, Decimal.isExponentMark, Decimal.IsLiteralChar, or_assoc]

theorem all_isThresholdChar_iff {chars : List Char} :
    chars.all isThresholdChar = true ↔ ∀ char ∈ chars, Decimal.IsLiteralChar char := by
  simp only [List.all_eq_true, isThresholdChar_iff]

theorem isLiteralChar_of_no_separator {literal : List Char} {amount : Decimal}
    (accepted : Decimal.read (trim literal) = .ok amount) (noSeparator : '_' ∉ literal) :
    ∀ char ∈ trim literal, Decimal.IsLiteralChar char := by
  intro char member
  rcases Decimal.known_of_read accepted char member with known | rfl
  · exact known
  · exact absurd ((mem_trim_iff rfl literal).mp member) noSeparator

theorem no_separator_of_isLiteralChar {literal : List Char}
    (known : ∀ char ∈ trim literal, Decimal.IsLiteralChar char) : '_' ∉ literal := by
  intro member
  have separator := known '_' ((mem_trim_iff rfl literal).mpr member)
  simp [Decimal.IsLiteralChar, Char.isDigit] at separator

theorem read_floor {text literal : List Char} (shape : trim text = '>' :: '=' :: literal) :
    read text =
      if (trim literal).all isThresholdChar then
        match Decimal.read (trim literal) with
        | .ok number => .ok (.atLeast number)
        | .error cause => .error (.amountThreshold (String.ofList (trim text)) cause)
      else .error (.malformedAmount (String.ofList (trim text))) := by
  rw [read, shape]
  rfl

theorem read_of_denotes {text : List Char} {rule : AmountRule} (denotes : Denotes (trim text) rule) :
    read text = .ok rule := by
  cases rule with
  | unrestricted =>
      rcases denotes with nothing | placed
      · simp [read, nothing]
      · simp [read, placed, placeholder]
  | unrecognized kept =>
      obtain ⟨given, notPlaced, noFloor, rfl⟩ := denotes
      simp only [read, placeholder, List.isEmpty_iff, Bool.or_eq_true, beq_iff_eq, given, notPlaced,
        or_self, if_false]
      split
      · rename_i shape
        exact absurd (shape ▸ List.prefix_append ['>', '='] _) noFloor
      · rfl
  | atLeast floor =>
      obtain ⟨literal, shape, accepted, noSeparator⟩ := denotes
      rw [amountOfText_eq_ok_iff, String.toList_ofList] at accepted
      have known := isLiteralChar_of_no_separator accepted noSeparator
      rw [read_floor shape, if_pos (all_isThresholdChar_iff.mpr known), accepted]

theorem read_of_foreignChar {text : List Char} (foreign : HasForeignChar (trim text)) :
    read text = .error (.malformedAmount (String.ofList (trim text))) := by
  obtain ⟨literal, shape, char, member, unknown⟩ := foreign
  rw [read_floor shape, if_neg]
  intro all
  exact unknown (all_isThresholdChar_iff.mp all char member)

theorem read_of_remaining {text : List Char} (refused : ∀ rule, ¬Denotes (trim text) rule)
    (known : ¬HasForeignChar (trim text)) :
    ∃ cause, read text = .error (.amountThreshold (String.ofList (trim text)) cause) := by
  have floored : ['>', '='] <+: trim text := by
    by_contra noFloor
    by_cases asksNothing : trim text = [] ∨ trim text = ['-', ' ', '-']
    · exact refused .unrestricted asksNothing
    · obtain ⟨given, notPlaced⟩ := not_or.mp asksNothing
      exact refused (.unrecognized _) ⟨given, notPlaced, noFloor, rfl⟩
  obtain ⟨literal, joined⟩ := floored
  have shape : trim text = '>' :: '=' :: literal := joined.symm
  have allKnown : ∀ char ∈ trim literal, Decimal.IsLiteralChar char := by
    intro char member
    by_contra unknown
    exact known ⟨literal, shape, char, member, unknown⟩
  rw [read_floor shape, if_pos (all_isThresholdChar_iff.mpr allKnown)]
  cases number : Decimal.read (trim literal) with
  | ok floor =>
      have accepted : amountOfText (String.ofList literal) = .ok floor := by
        rw [amountOfText_eq_ok_iff, String.toList_ofList, number]
      exact absurd ⟨literal, shape, accepted, no_separator_of_isLiteralChar allKnown⟩
        (refused (.atLeast floor))
  | error cause => exact ⟨cause, rfl⟩

theorem not_denotes_of_error {text : List Char} {fault : RuleFault}
    (failed : read text = .error fault) (rule : AmountRule) : ¬Denotes (trim text) rule := by
  intro denotes
  rw [read_of_denotes denotes] at failed
  cases failed

theorem read_eq_ok_iff {text : List Char} {rule : AmountRule} :
    read text = .ok rule ↔ Denotes (trim text) rule := by
  constructor
  · intro accepted
    by_cases known : ∃ stated, Denotes (trim text) stated
    · obtain ⟨stated, denotes⟩ := known
      rw [read_of_denotes denotes] at accepted
      cases accepted
      exact denotes
    · by_cases foreign : HasForeignChar (trim text)
      · rw [read_of_foreignChar foreign] at accepted
        cases accepted
      · obtain ⟨cause, failed⟩ := read_of_remaining (not_exists.mp known) foreign
        rw [failed] at accepted
        cases accepted
  · exact read_of_denotes

theorem read_eq_malformed_iff {text : List Char} {kept : String} :
    read text = .error (.malformedAmount kept) ↔
      HasForeignChar (trim text) ∧ kept = String.ofList (trim text) := by
  constructor
  · intro failed
    by_cases foreign : HasForeignChar (trim text)
    · rw [read_of_foreignChar foreign] at failed
      cases failed
      exact ⟨foreign, rfl⟩
    · obtain ⟨cause, remaining⟩ := read_of_remaining (not_denotes_of_error failed) foreign
      rw [remaining] at failed
      cases failed
  · rintro ⟨foreign, rfl⟩
    exact read_of_foreignChar foreign

theorem exists_read_eq_threshold_iff {text : List Char} {kept : String} :
    (∃ cause, read text = .error (.amountThreshold kept cause)) ↔
      ((∀ rule, ¬Denotes (trim text) rule) ∧ ¬HasForeignChar (trim text)) ∧
        kept = String.ofList (trim text) := by
  constructor
  · rintro ⟨cause, failed⟩
    have refused := not_denotes_of_error failed
    have known : ¬HasForeignChar (trim text) := by
      intro foreign
      rw [read_of_foreignChar foreign] at failed
      cases failed
    obtain ⟨same, remaining⟩ := read_of_remaining refused known
    rw [remaining] at failed
    cases failed
    exact ⟨⟨refused, known⟩, rfl⟩
  · rintro ⟨⟨refused, known⟩, rfl⟩
    exact read_of_remaining refused known

theorem exists_floor_of_denotes {text : List Char} {rule : AmountRule} (denotes : Denotes text rule)
    (floored : ['>', '='] <+: text) : ∃ floor, rule = .atLeast floor := by
  obtain ⟨literal, rfl⟩ := floored
  cases rule with
  | unrestricted => simp [Denotes] at denotes
  | unrecognized kept => exact absurd (List.prefix_append _ literal) denotes.2.2.1
  | atLeast floor => exact ⟨floor, rfl⟩

theorem trim_floor (behind : List Char) :
    trim ('>' :: '=' :: behind) = '>' :: '=' :: trimEnd behind :=
  (trim_cons_solid rfl _).trans (congrArg _ (trimEnd_cons_solid rfl behind))

theorem denotes_floor_iff {behind : List Char} {floor : Decimal} :
    Denotes ('>' :: '=' :: trimEnd behind) (.atLeast floor) ↔
      Decimal.read (trim behind) = .ok floor ∧ '_' ∉ behind := by
  have sameSeparators : '_' ∈ trimEnd behind ↔ '_' ∈ behind := by
    rw [← mem_trim_iff rfl, trim_trimEnd, mem_trim_iff rfl]
  have sameAmount : amountOfText (String.ofList (trimEnd behind)) = .ok floor ↔
      Decimal.read (trim behind) = .ok floor := by
    rw [amountOfText_eq_ok_iff, String.toList_ofList, trim_trimEnd]
  rw [← sameAmount, ← sameSeparators]
  constructor
  · rintro ⟨literal, same, accepted, noSeparator⟩
    cases same
    exact ⟨accepted, noSeparator⟩
  · rintro ⟨accepted, noSeparator⟩
    exact ⟨_, rfl, accepted, noSeparator⟩

theorem ofText_floor_iff (literal : String) (floor : Decimal) :
    ofText (">=" ++ literal) = .ok (.atLeast floor) ↔
      amountOfText literal = .ok floor ∧ '_' ∉ literal.toList := by
  have chars : (">=" ++ literal).toList = '>' :: '=' :: literal.toList := String.toList_append
  rw [ofText, read_eq_ok_iff, chars, trim_floor, denotes_floor_iff, amountOfText_eq_ok_iff]

/-- Which texts stand for which condition and how the others are refused. A text behind the floor
operator never asks for nothing, and is read as an amount is, but for separators. -/
theorem amount_texts_classified (text : String) :
    let given := trim text.toList
    (∀ rule, ofText text = .ok rule ↔ Denotes given rule) ∧
      (∀ kept, ofText text = .error (.malformedAmount kept) ↔
        HasForeignChar given ∧ kept = String.ofList given) ∧
      (∀ kept, (∃ cause, ofText text = .error (.amountThreshold kept cause)) ↔
        ((∀ rule, ¬Denotes given rule) ∧ ¬HasForeignChar given) ∧ kept = String.ofList given) ∧
      (∀ rule, ofText text = .ok rule → ['>', '='] <+: given → ∃ floor, rule = .atLeast floor) ∧
      ∀ literal floor, ofText (">=" ++ literal) = .ok (.atLeast floor) ↔
        amountOfText literal = .ok floor ∧ '_' ∉ literal.toList := by
  intro given
  refine ⟨fun rule => read_eq_ok_iff, fun kept => read_eq_malformed_iff,
    fun kept => exists_read_eq_threshold_iff, ?_, ofText_floor_iff⟩
  intro rule accepted floored
  exact exists_floor_of_denotes (read_eq_ok_iff.mp accepted) floored

example : ofText ">= 1_000" = .error (.malformedAmount ">= 1_000") := by decide

end AmountRule

end Underwriting
