import Underwriting.Proofs.Gate.LookupOrder
import Underwriting.Proofs.Store.DateColumn

/-!
Windows of prices. Where the bounds of windows are stored as texts of dates, a price is valid on the
days from the first to the last of its window, both included, whatever the year of the day. A day
without a valid price is refused, provided that the store knows what it is asked about.
-/

namespace Underwriting

namespace Store.Database

variable (database : Database)

def HoldsDate (column : String) (row : Row) (date : Date) : Prop :=
  date.HasPlainYear ∧ (database.cell "Deckungspreis" column row).value = .text date.toText

def WindowsWritten : Prop :=
  ∀ row ∈ database.rowsOf "Deckungspreis", ∃ opening closing,
    database.HoldsDate "Gueltig_Von" row opening ∧ database.HoldsDate "Gueltig_Bis" row closing

def Covers (on : Date) (row : Row) : Prop :=
  ∃ opening closing, database.HoldsDate "Gueltig_Von" row opening ∧
    database.HoldsDate "Gueltig_Bis" row closing ∧ opening ≤ on ∧ on ≤ closing

def PricedOn (coverageType : CoverageTypeId) (amount : Decimal) (on : Date) : Prop :=
  ∃ priceRow ∈ database.rowsOf "Deckungspreis", database.Covers on priceRow ∧
    ∃ amountRow ∈ database.rowsOf "Deckungsbetrag",
      database.isPriceOf amountRow priceRow ∧ database.isOffer coverageType amount amountRow

def KnowsPrices : Prop :=
  database.has "Deckungspreis" ["Deckungsbetrag_FK", "Gueltig_Von", "Gueltig_Bis"] = true ∧
    database.has "Deckungsbetrag" ["ID", "Deckungsart_FK", "Deckungsbetrag"] = true

variable {database}

theorem windowsWritten_of_single {row : Row} (rows : database.rowsOf "Deckungspreis" = [row])
    {opening closing : Date} (opens : database.HoldsDate "Gueltig_Von" row opening)
    (closes : database.HoldsDate "Gueltig_Bis" row closing) : database.WindowsWritten := by
  intro other stored
  rw [rows, List.mem_singleton] at stored
  subst stored
  exact ⟨opening, closing, opens, closes⟩

theorem isValidOn_iff_between {row : Row} {opening closing : Date}
    (opens : database.HoldsDate "Gueltig_Von" row opening)
    (closes : database.HoldsDate "Gueltig_Bis" row closing) (on : Date) :
    database.isValidOn on row = true ↔ opening ≤ on ∧ on ≤ closing := by
  have asked : (Query.dateOperand on).value = .text on.toText := rfl
  rw [isValidOn, Bool.and_eq_true, atMost_dates_iff opens.2 asked, atMost_dates_iff asked closes.2]
  exact Date.between_texts_iff opens.1 closes.1 on

theorem isValidOn_iff_covers (written : database.WindowsWritten) {row : Row}
    (stored : row ∈ database.rowsOf "Deckungspreis") (on : Date) :
    database.isValidOn on row = true ↔ database.Covers on row := by
  constructor
  · intro valid
    obtain ⟨opening, closing, opens, closes⟩ := written row stored
    exact ⟨opening, closing, opens, closes, (isValidOn_iff_between opens closes on).mp valid⟩
  · rintro ⟨opening, closing, opens, closes, between⟩
    exact (isValidOn_iff_between opens closes on).mpr between

theorem priceValid_iff_pricedOn (written : database.WindowsWritten) (coverageType : CoverageTypeId)
    (amount : Decimal) (on : Date) :
    database.PriceValid coverageType amount on ↔ database.PricedOn coverageType amount on := by
  apply exists_congr
  intro row
  apply and_congr_right
  intro stored
  exact and_congr_left fun _ => isValidOn_iff_covers written stored on

end Store.Database

namespace Gate

open Store

variable {database : Database}

theorem checkPrice_of_invalid (known : database.KnowsPrices) {coverageType : CoverageTypeId}
    {amount : Decimal} {on : Date} (invalid : ¬database.PriceValid coverageType amount on) :
    (checkPrice database coverageType amount on).outcome =
      .error (.priceUnavailable coverageType amount on) := by
  rw [checkPrice, outcome_require, Database.priceValid_eq known.1 known.2, decide_eq_false invalid]
  rfl

theorem checkPrice_of_unknown (unknown : ¬database.KnowsPrices) (coverageType : CoverageTypeId)
    (amount : Decimal) (on : Date) :
    ∃ fault, (checkPrice database coverageType amount on).outcome =
      .error (.dataAccess .checkingPrice (.store fault)) := by
  rw [checkPrice, outcome_require]
  cases asked : Query.priceValid database coverageType amount on with
  | ok found => exact absurd (Database.known_of_priceValid asked) unknown
  | error fault => exact ⟨fault, rfl⟩

/-- An amount has a price on the days of the windows of its prices, bounds included. On other days it
has none, and the store fails if it lacks what it is asked about. -/
theorem price_windows_inclusive (written : database.WindowsWritten) (coverageType : CoverageTypeId)
    (amount : Decimal) (on : Date) :
    ((checkPrice database coverageType amount on).outcome = .ok () ↔
        database.PricedOn coverageType amount on) ∧
      (database.KnowsPrices → ¬database.PricedOn coverageType amount on →
        (checkPrice database coverageType amount on).outcome =
          .error (.priceUnavailable coverageType amount on)) ∧
      (¬database.KnowsPrices → ∃ fault, (checkPrice database coverageType amount on).outcome =
        .error (.dataAccess .checkingPrice (.store fault))) := by
  rw [← Database.priceValid_iff_pricedOn written]
  exact ⟨checkPrice_ok_iff, fun known => checkPrice_of_invalid known,
    fun unknown => checkPrice_of_unknown unknown coverageType amount on⟩

theorem last_day_is_priced :
    let database := Sample.singleContract 1 []
    let lastDay : Date := ⟨2025, 12, 31, by decide⟩
    let signed : Date := ⟨10000, 1, 1, by decide⟩
    database.WindowsWritten ∧
      (checkPrice database ⟨7⟩ Sample.tenThousand lastDay).outcome = .ok () ∧
      (checkPrice database ⟨7⟩ Sample.tenThousand signed).outcome =
        .error (.priceUnavailable ⟨7⟩ Sample.tenThousand signed) := by
  intro database lastDay signed
  let firstDay : Date := ⟨2025, 1, 1, by decide⟩
  let price : Row := [Sample.whole 1, Sample.whole 1, .text "2025-01-01", .text "2025-12-31"]
  have rows : database.rowsOf "Deckungspreis" = [price] := by decide
  have opens : database.HoldsDate "Gueltig_Von" price firstDay := ⟨by decide, by decide⟩
  have closes : database.HoldsDate "Gueltig_Bis" price lastDay := ⟨by decide, by decide⟩
  have written : database.WindowsWritten := Database.windowsWritten_of_single rows opens closes
  have known : database.KnowsPrices := ⟨by decide, by decide⟩
  have priced : database.PricedOn ⟨7⟩ Sample.tenThousand lastDay :=
    (Database.priceValid_iff_pricedOn written _ _ _).mp (by decide +kernel)
  have unpriced : ¬database.PricedOn ⟨7⟩ Sample.tenThousand signed :=
    (Database.priceValid_iff_pricedOn written _ _ _).not.mp (by decide +kernel)
  exact ⟨written, (price_windows_inclusive written _ _ _).1.mpr priced,
    (price_windows_inclusive written _ _ _).2.1 known unpriced⟩

/-- Without the table of amounts the question for a price cannot be answered. -/
theorem unanswered_price_is_no_refusal :
    ¬∀ database : Database, database.WindowsWritten → ∀ coverageType amount on,
      ((checkPrice database coverageType amount on).outcome = .ok () ↔
          database.PricedOn coverageType amount on) ∧
        (¬database.PricedOn coverageType amount on →
          (checkPrice database coverageType amount on).outcome =
            .error (.priceUnavailable coverageType amount on)) := by
  intro decided
  let price : Row := [Sample.whole 1, Sample.whole 1, .text "2025-01-01", .text "2025-12-31"]
  let database : Database := .ofTables [{ Schema.prices with rows := [price] }]
  have rows : database.rowsOf "Deckungspreis" = [price] := by decide
  have opens : database.HoldsDate "Gueltig_Von" price ⟨2025, 1, 1, by decide⟩ :=
    ⟨by decide, by decide⟩
  have closes : database.HoldsDate "Gueltig_Bis" price ⟨2025, 12, 31, by decide⟩ :=
    ⟨by decide, by decide⟩
  have written : database.WindowsWritten := Database.windowsWritten_of_single rows opens closes
  have unpriced : ¬database.PricedOn ⟨7⟩ Sample.tenThousand Sample.day := by
    rintro ⟨_, _, _, amountRow, stored, _⟩
    have none : database.rowsOf "Deckungsbetrag" = [] := by decide
    simp [none] at stored
  have refused := (decided database written ⟨7⟩ Sample.tenThousand Sample.day).2 unpriced
  have failed : (checkPrice database ⟨7⟩ Sample.tenThousand Sample.day).outcome =
      .error (.dataAccess .checkingPrice (.store (.noSuchTable "Deckungsbetrag"))) := by decide
  rw [failed] at refused
  cases refused

end Gate

end Underwriting
