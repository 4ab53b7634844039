import Underwriting.Store.Statement

/-!
The order in which a search meets the rows of three tables: rules, contracts and customers, where a
customer belongs to a contract by a link. The tables are gone through one inside the other. What
tells the rows of a table apart decides which of them is outermost, and a table whose rows are told
apart by nothing is met in the order of the values that the search reads from it.
-/

namespace Underwriting.Store

namespace Value

def sortOrder (left right : Value) : Ordering :=
  match left, right with
  | .null, .null => .eq
  | .null, _ => .lt
  | _, .null => .gt
  | _, _ => (order left right).getD .eq

end Value

def Row.sortOrder (columns : List Nat) (left right : Row) : Ordering :=
  columns.foldl (fun order column =>
    order.then (Value.sortOrder (left.valueAt column) (right.valueAt column))) .eq

def sortedRows (columns : List Nat) (rows : List Row) : List Row :=
  let columns := columns.mergeSort
  rows.mergeSort fun left right => Row.sortOrder columns left right != .gt

structure SearchKeys where
  typeTold : Bool
  sequenceTold : Bool
  contractTold : Bool
  customerTold : Bool
  linkTold : Bool
  /-- Links are converted to the numbers of customers, and not the other way round. -/
  linkConverted : Bool

inductive SearchOrder
  | asStored
  | customersSorted
  | contractsSorted
  | customersFirst
  | contractsFirst
deriving DecidableEq

namespace SearchKeys

def order (keys : SearchKeys) : SearchOrder :=
  if keys.typeTold then
    if keys.contractTold || keys.customerTold then .asStored
    else if keys.linkTold || !keys.linkConverted then .customersFirst
    else .customersSorted
  else if keys.contractTold then
    if keys.customerTold then .asStored
    else if keys.linkConverted then .customersSorted
    else .customersFirst
  else if keys.customerTold then
    if keys.sequenceTold then .contractsSorted else .contractsFirst
  else if !keys.linkConverted || (keys.linkTold && !keys.sequenceTold) then .customersFirst
  else .contractsSorted

end SearchKeys

structure SearchRows where
  rules : List Row
  ruleColumns : List Nat
  contracts : List Row
  contractStart : Nat
  link : Nat
  customers : List Row
  birth : Nat

namespace SearchRows

abbrev Match := Row × Row × Row

def sortedRules (rows : SearchRows) : List Row := sortedRows rows.ruleColumns rows.rules

def sortedCustomers (rows : SearchRows) : List Row := sortedRows [rows.birth] rows.customers

def met (rows : SearchRows) (order : SearchOrder) : List Match :=
  match order with
  | .asStored =>
      rows.rules.flatMap fun rule => rows.contracts.flatMap fun contract =>
        rows.customers.map fun customer => (rule, contract, customer)
  | .customersSorted =>
      rows.rules.flatMap fun rule => rows.contracts.flatMap fun contract =>
        rows.sortedCustomers.map fun customer => (rule, contract, customer)
  | .contractsSorted =>
      rows.rules.flatMap fun rule =>
        (sortedRows [rows.contractStart, rows.link] rows.contracts).flatMap fun contract =>
          rows.sortedCustomers.map fun customer => (rule, contract, customer)
  | .customersFirst =>
      rows.customers.flatMap fun customer => rows.sortedRules.flatMap fun rule =>
        (sortedRows [rows.contractStart] rows.contracts).map fun contract =>
          (rule, contract, customer)
  | .contractsFirst =>
      rows.contracts.flatMap fun contract => rows.customers.flatMap fun customer =>
        rows.sortedRules.map fun rule => (rule, contract, customer)

end SearchRows

end Underwriting.Store
