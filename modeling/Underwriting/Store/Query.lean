import Underwriting.Store.Search
import Underwriting.Coverage

/-!
The questions that the gate asks the store. Each is a statement with its tables and columns found
first, and then a search over the rows of the tables; a row is compared with the request under the
leanings of the columns. The store answers these questions only, there is no language for others.
-/

namespace Underwriting.Store

structure StoredRule where
  sequence : Output
  ageRule : Output
  amountRule : Output
  contractStart : Output
  birthDate : Output
deriving DecidableEq

namespace Query

def contractExistsStatement : Statement :=
  ⟨[.words "SELECT 1 FROM Vertrag WHERE ", .reference "" "ID", .words " = ?1"]⟩

def coverageTypeExistsStatement : Statement :=
  ⟨[.words "SELECT 1 FROM Deckungsart WHERE ", .reference "" "ID", .words " = ?1"]⟩

def productMatchesStatement : Statement :=
  ⟨[.words "SELECT 1 FROM Vertrag v, Deckungsart d WHERE ", .reference "v" "ID",
    .words " = ?1 AND ", .reference "d" "ID", .words " = ?2 AND ",
    .reference "v" "Produkt_FK", .words " = ", .reference "d" "Produkt_FK"]⟩

def amountListedStatement : Statement :=
  ⟨[.words "SELECT 1 FROM Deckungsbetrag WHERE ", .reference "" "Deckungsart_FK",
    .words " = ?1 AND ", .reference "" "Deckungsbetrag", .words " = ?2"]⟩

def priceValidStatement : Statement :=
  ⟨[.words "SELECT 1 FROM Deckungspreis dp JOIN Deckungsbetrag db ON ",
    .reference "dp" "Deckungsbetrag_FK", .words " = ", .reference "db" "ID", .words " WHERE ",
    .reference "db" "Deckungsart_FK", .words " = ?1 AND ",
    .reference "db" "Deckungsbetrag", .words " = ?2 AND ?3 BETWEEN ",
    .reference "dp" "Gueltig_Von", .words " AND ", .reference "dp" "Gueltig_Bis"]⟩

def rejectionRulesStatement : Statement :=
  ⟨[.words "SELECT ", .reference "ar" "LfdNr", .words ", ", .reference "ar" "R_Alter",
    .words ", ", .reference "ar" "R_Betrag", .words ", ", .reference "v" "Versicherungsbeginn",
    .words ", ", .reference "k" "Geburtsdatum",
    .words " FROM Ablehnungsregel ar, Vertrag v, Kunde k WHERE ",
    .reference "ar" "Deckungsart_FK", .words " = ?1 AND ", .reference "v" "ID",
    .words " = ?2 AND ", .reference "k" "ID", .words " = ", .reference "v" "Kunde_FK",
    .words " ORDER BY ", .reference "ar" "LfdNr"]⟩

def amountOperand (amount : Decimal) : Operand := .bound (.text amount.toText)

def dateOperand (date : Date) : Operand := .bound (.text date.toText)

def contractExists (database : Database) (contract : ContractId) : Except Fault Bool := do
  let statement := contractExistsStatement
  let contracts ← database.source "Vertrag"
  let id ← statement.locate contracts "" "ID"
  return contracts.rows.any fun row => (id.read row).equals (.ofInt64 contract.number)

def coverageTypeExists (database : Database) (coverageType : CoverageTypeId) :
    Except Fault Bool := do
  let statement := coverageTypeExistsStatement
  let types ← database.source "Deckungsart"
  let id ← statement.locate types "" "ID"
  return types.rows.any fun row => (id.read row).equals (.ofInt64 coverageType.number)

def productMatches (database : Database) (contract : ContractId) (coverageType : CoverageTypeId) :
    Except Fault Bool := do
  let statement := productMatchesStatement
  let contracts ← database.source "Vertrag"
  let types ← database.source "Deckungsart"
  let contractId ← statement.locate contracts "v" "ID"
  let typeId ← statement.locate types "d" "ID"
  let contractProduct ← statement.locate contracts "v" "Produkt_FK"
  let typeProduct ← statement.locate types "d" "Produkt_FK"
  return contracts.rows.any fun contractRow =>
    (contractId.read contractRow).equals (.ofInt64 contract.number) &&
      types.rows.any fun typeRow =>
        (typeId.read typeRow).equals (.ofInt64 coverageType.number) &&
          (contractProduct.read contractRow).equals (typeProduct.read typeRow)

def amountListed (database : Database) (coverageType : CoverageTypeId) (amount : Decimal) :
    Except Fault Bool := do
  let statement := amountListedStatement
  let amounts ← database.source "Deckungsbetrag"
  let type ← statement.locate amounts "" "Deckungsart_FK"
  let listed ← statement.locate amounts "" "Deckungsbetrag"
  return amounts.rows.any fun row =>
    (type.read row).equals (.ofInt64 coverageType.number) &&
      (listed.read row).equals (amountOperand amount)

/-- The condition that joins the two tables is looked at behind the other conditions. -/
def priceValid (database : Database) (coverageType : CoverageTypeId) (amount : Decimal)
    (on : Date) : Except Fault Bool := do
  let statement := priceValidStatement
  let prices ← database.source "Deckungspreis"
  let amounts ← database.source "Deckungsbetrag"
  let type ← statement.locate amounts "db" "Deckungsart_FK"
  let listed ← statement.locate amounts "db" "Deckungsbetrag"
  let validFrom ← statement.locate prices "dp" "Gueltig_Von"
  let validTo ← statement.locate prices "dp" "Gueltig_Bis"
  let priced ← Statement.locateJoined prices "dp" "Deckungsbetrag_FK"
  let id ← Statement.locateJoined amounts "db" "ID"
  return prices.rows.any fun priceRow =>
    (validFrom.read priceRow).atMost (dateOperand on) &&
      (dateOperand on).atMost (validTo.read priceRow) &&
      amounts.rows.any fun amountRow =>
        (priced.read priceRow).equals (id.read amountRow) &&
          (type.read amountRow).equals (.ofInt64 coverageType.number) &&
          (listed.read amountRow).equals (amountOperand amount)

def rejectionRuleKeys (rules contracts customers : Relation) (customerId link : Statement.Located) :
    SearchKeys :=
  let numericId := customerId.column.affinity.isNumeric
  let numericLink := link.column.affinity.isNumeric
  let linkConverted := numericId || !numericLink
  { typeTold := rules.tellsApart "Deckungsart_FK"
    sequenceTold := rules.tellsApart "LfdNr"
    contractTold := contracts.tellsApart "ID"
    customerTold := linkConverted && customers.tellsApart "ID"
    linkTold := (numericLink || !numericId) && contracts.tellsApart "Kunde_FK"
    linkConverted }

/-- The rules of a coverage type for each customer of a contract, in the order of their numbers;
rules of one number keep the order in which the search meets them. -/
def rejectionRules (database : Database) (coverageType : CoverageTypeId)
    (contract : ContractId) : Except Fault (List StoredRule) := do
  let statement := rejectionRulesStatement
  let rules ← database.source "Ablehnungsregel"
  let contracts ← database.source "Vertrag"
  let customers ← database.source "Kunde"
  let sequence ← statement.locate rules "ar" "LfdNr"
  let ageRule ← statement.locate rules "ar" "R_Alter"
  let amountRule ← statement.locate rules "ar" "R_Betrag"
  let start ← statement.locate contracts "v" "Versicherungsbeginn"
  let birth ← statement.locate customers "k" "Geburtsdatum"
  let type ← statement.locate rules "ar" "Deckungsart_FK"
  let contractId ← statement.locate contracts "v" "ID"
  let customerId ← statement.locate customers "k" "ID"
  let link ← statement.locate contracts "v" "Kunde_FK"
  let rows : SearchRows :=
    { rules := rules.rows.filter fun row =>
        (type.read row).equals (.ofInt64 coverageType.number)
      ruleColumns := [sequence.index, ageRule.index, amountRule.index]
      contracts := contracts.rows.filter fun row =>
        (contractId.read row).equals (.ofInt64 contract.number)
      contractStart := start.index
      link := link.index
      customers := customers.rows
      birth := birth.index }
  let order := (rejectionRuleKeys rules contracts customers customerId link).order
  let matched := (rows.met order).filter fun (_, contractRow, customerRow) =>
    (customerId.read customerRow).equals (link.read contractRow)
  let stored := matched.map fun (rule, contractRow, customerRow) =>
    { sequence := sequence.output rule
      ageRule := ageRule.output rule
      amountRule := amountRule.output rule
      contractStart := start.output contractRow
      birthDate := birth.output customerRow : StoredRule }
  return stored.mergeSort fun left right => left.sequence.value.sortsAtMost right.sequence.value

end Query

end Underwriting.Store
