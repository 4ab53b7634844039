import Underwriting.Exchange.Records
import Underwriting.Gate.Admission
import Underwriting.Proofs.Rule.PrintedRule

/-!
Amounts as they leave the gate: bound to a statement, in a record or in a message. Everywhere it is
the one text of the amount, which is read back as the amount it stands for, at its scale. A minus in
front of a zero is shown, and is not read.
-/

namespace Underwriting.Gate

open Store Text

inductive Shows (amount : Decimal) (shown : String) : Prop
  | bound (given : (Query.amountOperand amount).value = .text shown)
  | inserted (request : Request) (asks : request.amount = amount)
      (given : ("Deckungsbetrag", Value.text shown) ∈ coverageRow request)
  | recorded (coverage : Coverage) (members : List (String × Json)) (holds : coverage.amount = amount)
      (written : coverage.toJson = .object members) (given : ("amount", Json.text shown) ∈ members)
  | requested (request : Request) (asks : request.amount = amount)
      (told : request.toText = "contract " ++ request.contract.toText ++ " / coverage type " ++
        request.coverageType.toText ++ " / amount " ++ shown)
  | notOffered (coverageType : CoverageTypeId)
      (told : (Failure.invalidAmount coverageType amount).message =
        "amount " ++ shown ++ " is not offered for coverage type " ++ coverageType.toText)
  | notPriced (coverageType : CoverageTypeId) (on : Date)
      (told : (Failure.priceUnavailable coverageType amount on).message =
        "no price valid on " ++ on.toText ++ " for coverage type " ++ coverageType.toText ++
          " with amount " ++ shown)
  | logged (name : String) (told : Field.shown name amount = ⟨name, .shown shown⟩)

theorem shows_iff {amount : Decimal} {shown : String} :
    Shows amount shown ↔ shown = amount.toText := by
  constructor
  · intro shows
    cases shows with
    | bound given =>
        have same : Value.text amount.toText = .text shown := given
        simpa using same.symm
    | inserted request asks given =>
        subst asks
        simpa [coverageRow] using given
    | recorded coverage members holds written given =>
        subst holds
        simp only [Coverage.toJson, Json.object.injEq] at written
        subst written
        simpa [Decimal.toJson, ContractId.toJson, CoverageTypeId.toJson] using given
    | requested request asks told =>
        subst asks
        simpa [Request.toText] using told.symm
    | notOffered coverageType told =>
        change "amount " ++ amount.toText ++ " is not offered for coverage type " ++
          coverageType.toText = _ at told
        rw [String.append_left_inj, String.append_left_inj, String.append_right_inj] at told
        exact told.symm
    | notPriced coverageType on told =>
        change "no price valid on " ++ on.toText ++ " for coverage type " ++ coverageType.toText ++
          " with amount " ++ amount.toText = _ at told
        exact ((String.append_right_inj _).mp told).symm
    | logged name told =>
        simp only [Field.shown, Field.mk.injEq, FieldValue.shown.injEq, true_and] at told
        exact told.symm
  · rintro rfl
    exact .bound rfl

theorem amountOfText_between_blanks (amount : Decimal) {front back : List Char}
    (frontBlank : AreBlank front) (backBlank : AreBlank back) :
    amountOfText (String.ofList (front ++ amount.toText.toList ++ back)) =
      .ok amount.unsignZero := by
  have whole := AmountRule.amountOfText_toText amount
  rw [amountOfText_eq_ok_iff] at whole ⊢
  rwa [String.toList_ofList, trim_append_blank _ backBlank, trim_blank_append frontBlank]

/-- An amount is read back as itself from every text that shows it, with any blanks around, unless it
is a zero with a minus. Where a typed amount is shown, an equal amount of its scale is read back. -/
theorem shown_amounts_read_back :
    (∀ amount : Decimal, (amount.negative = true → amount.mantissa ≠ 0) →
      ∀ shown, Shows amount shown → ∀ front back, AreBlank front → AreBlank back →
        amountOfText (String.ofList (front ++ shown.toList ++ back)) = .ok amount) ∧
      ∀ typed amount, amountOfText typed = .ok amount → ∀ shown, Shows amount shown →
        ∃ again, amountOfText shown = .ok again ∧ again.sameValue amount = true ∧
          again.scale = amount.scale ∧ (amount.mantissa ≠ 0 → again = amount) := by
  constructor
  · intro amount unsignedZero shown shows front back frontBlank backBlank
    rw [shows_iff.mp shows, amountOfText_between_blanks amount frontBlank backBlank]
    rw [Decimal.unsignZero_eq_self unsignedZero]
  · intro typed amount _ shown shows
    rw [shows_iff.mp shows]
    exact ⟨amount.unsignZero, AmountRule.amountOfText_toText amount,
      Decimal.sameValue_iff.mpr amount.value_unsignZero, rfl,
      Decimal.unsignZero_of_mantissa_ne_zero⟩

/-- The largest mantissa at the largest scale reads back between an ideographic space and a line end,
and the zero that `-0.4e-28` is rounded to reads back without its minus. -/
theorem largest_amount_reads_back :
    let largest : Decimal := ⟨true, 79228162514264337593543950335, 28, by decide, by decide⟩
    let rounded : Decimal := ⟨true, 0, 28, by decide, by decide⟩
    amountOfText "\u3000-7.9228162514264337593543950335\n" = .ok largest ∧
      amountOfText "-0.4e-28" = .ok rounded ∧
      ∃ again, amountOfText "-0.0000000000000000000000000000" = .ok again ∧ again.scale = 28 := by
  intro largest rounded
  have typed : amountOfText "-0.4e-28" = .ok rounded := by decide +kernel
  have shown : rounded.toText = "-0.0000000000000000000000000000" := by decide +kernel
  have around : String.ofList (['\u3000'] ++ largest.toText.toList ++ ['\n']) =
      "\u3000-7.9228162514264337593543950335\n" := by decide +kernel
  obtain ⟨again, read, _, scale, _⟩ :=
    shown_amounts_read_back.2 _ rounded typed rounded.toText (shows_iff.mpr rfl)
  refine ⟨?_, typed, again, shown ▸ read, scale⟩
  rw [← around]
  exact shown_amounts_read_back.1 largest (fun _ => by decide) _ (.bound rfl) ['\u3000'] ['\n']
    (by simp [AreBlank, isBlank]) (by simp [AreBlank, isBlank])

end Underwriting.Gate
