import Underwriting.Store.Database
import Underwriting.Store.Declaration

/-!
The insurance schema: products, customers, contracts, coverage types with the amounts they are
offered for and the prices of these, rejection rules, and the coverages themselves. A coverage type
is added to a contract once.
-/

namespace Underwriting.Store.Schema

def products : Table :=
  .declare "Produkt" [("ID", "INTEGER PRIMARY KEY"), ("KuerzelP", "VARCHAR2(10)")]

def customers : Table :=
  .declare "Kunde"
    [("ID", "INTEGER PRIMARY KEY"), ("Name", "VARCHAR2(100)"), ("Geburtsdatum", "DATE")]

def contracts : Table :=
  .declare "Vertrag"
    [("ID", "INTEGER PRIMARY KEY"), ("Versicherungsbeginn", "DATE"), ("Produkt_FK", "INTEGER"),
      ("Kunde_FK", "INTEGER")]

def coverageTypes : Table :=
  .declare "Deckungsart" [("ID", "INTEGER PRIMARY KEY"), ("Produkt_FK", "INTEGER")]

def amounts : Table :=
  .declare "Deckungsbetrag"
    [("ID", "INTEGER PRIMARY KEY"), ("Deckungsart_FK", "INTEGER"),
      ("Deckungsbetrag", "NUMBER(10, 2)")]

def prices : Table :=
  .declare "Deckungspreis"
    [("ID", "INTEGER PRIMARY KEY"), ("Deckungsbetrag_FK", "INTEGER"), ("Gueltig_Von", "DATE"),
      ("Gueltig_Bis", "DATE")]

def rejectionRules : Table :=
  .declare "Ablehnungsregel"
    [("Deckungsart_FK", "INTEGER"), ("LfdNr", "INTEGER"), ("R_Betrag", "VARCHAR2(20)"),
      ("R_Alter", "VARCHAR2(20)")]

def coverages : Table :=
  { Table.declare "Deckung"
      [("Vertrag_FK", "INTEGER NOT NULL"), ("Deckungsart_FK", "INTEGER NOT NULL"),
        ("Deckungsbetrag", "NUMBER(10, 2) NOT NULL")] with
    key := .columns ["Vertrag_FK", "Deckungsart_FK"] }

def database : Database :=
  .ofTables
    [products, customers, contracts, coverageTypes, amounts, prices, rejectionRules, coverages]

def withRows (database : Database) (table : String) (columns : List String)
    (rows : List (List Value)) : Database :=
  rows.foldl (fun database row =>
    match database.insert table (columns.zip row) with
    | .ok (changed, _) => changed
    | .error _ => database) database

end Underwriting.Store.Schema
