import Underwriting.Proofs.Gate.Ledger
import Underwriting.Proofs.Gate.Noninterference
import Underwriting.Proofs.Store.PairKeys

/-!
Creations of coverages in different orders. No check reads the ledger, so a creation depends on earlier
ones only through what tells the rows of the ledger apart. If that is always the contract together
with the coverage type, creations for different pairs have the same results in every order and leave
the same rows; and if the pair is the key of the ledger, it is taken once and for all.
-/

namespace Underwriting.Gate

open Store

def record (database : Database) (requests : List Request) : Database :=
  database.updateTable ledgerName fun table =>
    table.gain (requests.map fun request => table.convertedRow (coverageRow request))

def PairsDiffer (first second : Request) : Prop :=
  first.contract ≠ second.contract ∨ first.coverageType ≠ second.coverageType

theorem PairsDiffer.symm {first second : Request} (differ : PairsDiffer first second) :
    PairsDiffer second first :=
  differ.imp Ne.symm Ne.symm

def LedgerTellsPairsApart (database : Database) : Prop :=
  ∀ table, database.table? ledgerName = some table →
    table.TellsPairsApart "Vertrag_FK" "Deckungsart_FK"

theorem contract_mem_coverageRow (request : Request) :
    ("Vertrag_FK", .integer request.contract.number) ∈ coverageRow request := by
  simp [coverageRow]

theorem coverageType_mem_coverageRow (request : Request) :
    ("Deckungsart_FK", .integer request.coverageType.number) ∈ coverageRow request := by
  simp [coverageRow]

section Recording

variable {database : Database}

theorem record_nil (database : Database) : record database [] = database := by
  cases found : database.table? ledgerName with
  | none => exact Database.updateTable_of_no_table found _
  | some table =>
      refine Eq.trans ?_ (Database.updateTable_const found)
      exact Database.updateTable_congr found (by simp)

theorem record_of_no_table (missing : database.table? ledgerName = none)
    (requests : List Request) : record database requests = database :=
  Database.updateTable_of_no_table missing _

theorem table?_record {table : Table} (found : database.table? ledgerName = some table)
    (requests : List Request) :
    (record database requests).table? ledgerName =
      some (table.gain (requests.map fun request => table.convertedRow (coverageRow request))) :=
  Database.table?_updateTable found rfl

theorem updateTable_record {table : Table} (found : database.table? ledgerName = some table)
    (done later : List Request) :
    (record database done).updateTable ledgerName (fun _ =>
        (table.gain (done.map fun request => table.convertedRow (coverageRow request))).gain
          (later.map fun request => table.convertedRow (coverageRow request))) =
      record database (done ++ later) := by
  rw [record, Database.updateTable_updateTable found rfl]
  apply Database.updateTable_congr found
  simp [Table.gain_gain]

theorem runChecks_record (database : Database) (done : List Request) (request : Request)
    (on : Date) :
    runChecks (record database done) request on = runChecks database request on := by
  have same : Database.SameSchema database (record database done) :=
    Database.sameSchema_updateTable database ledgerName fun _ => rfl
  refine (runChecks_congr same (Database.agreeOn_of_sources same ?_ _ _) on).symm
  intro name member
  have apart : ∀ name ∈ Database.readRelations, sameName ledgerName name = false := by decide
  have kept (table : Table) : (table.gain (done.map fun request =>
      table.convertedRow (coverageRow request))).name = table.name := rfl
  exact (Database.source_updateTable_of_ne kept (apart name member)).symm

theorem takesValuesOf_of_pairsDiffer {table : Table}
    (tells : table.TellsPairsApart "Vertrag_FK" "Deckungsart_FK") {request other : Request}
    (known : table.unknownColumn? (coverageRow request) = none) (differ : PairsDiffer request other)
    {distinction : Distinction} (member : distinction ∈ table.distinctions) :
    table.takesValuesOf (table.convertedRow (coverageRow request))
      (table.convertedRow (coverageRow other)) distinction = false := by
  rcases differ with contracts | coverageTypes
  · have numbers : request.contract.number ≠ other.contract.number :=
      fun same => contracts (congrArg ContractId.mk same)
    have there := Table.isSome_columnIndex?_of_known known (contract_mem_coverageRow request)
    exact tells.takesValuesOf_eq_false (Or.inl rfl) (coverageRow_distinct request)
      (coverageRow_distinct other) (contract_mem_coverageRow request)
      (contract_mem_coverageRow other) numbers there member
  · have numbers : request.coverageType.number ≠ other.coverageType.number :=
      fun same => coverageTypes (congrArg CoverageTypeId.mk same)
    have there := Table.isSome_columnIndex?_of_known known (coverageType_mem_coverageRow request)
    exact tells.takesValuesOf_eq_false (Or.inr rfl) (coverageRow_distinct request)
      (coverageRow_distinct other) (coverageType_mem_coverageRow request)
      (coverageType_mem_coverageRow other) numbers there member

theorem count_insert_record (pairs : LedgerTellsPairsApart database) {done : List Request}
    {request : Request} (apart : ∀ other ∈ done, PairsDiffer request other) :
    ((record database done).insert ledgerName (coverageRow request)).map Prod.snd =
      (database.insert ledgerName (coverageRow request)).map Prod.snd := by
  cases found : database.table? ledgerName with
  | none => rw [record_of_no_table found]
  | some table =>
      have tells := pairs table found
      rw [Database.count_insert_of_table found,
        Database.count_insert_of_table (table?_record found done), Table.unknownColumn?_gain]
      cases known : table.unknownColumn? (coverageRow request) with
      | some column => rfl
      | none =>
          rw [Table.count_insert_gain (tells.not_numbering (by decide))]
          · rfl
          · intro row added distinction member
            obtain ⟨other, recorded, rfl⟩ := List.mem_map.mp added
            exact takesValuesOf_of_pairsDiffer tells known (apart other recorded) member

theorem insert_record {table : Table} (found : database.table? ledgerName = some table)
    (plain : ∀ column, table.key ≠ .numbering column) {done : List Request} {request : Request}
    {changed : Database} {count : Nat}
    (inserted : (record database done).insert ledgerName (coverageRow request) =
      .ok (changed, count)) :
    changed = record database (done ++ List.replicate count request) := by
  obtain ⟨recorded, after, recordedFound, _, added, rfl⟩ := Database.insert_ok inserted
  rw [table?_record found done] at recordedFound
  cases recordedFound
  have plainGain : ∀ column, (table.gain (done.map fun request =>
      table.convertedRow (coverageRow request))).key ≠ .numbering column := plain
  rw [Table.insert_eq_gain plainGain added, ← updateTable_record found, List.map_replicate]
  rfl

theorem persisted?_insert (database : Database) (request : Request) :
    (Step.ofCall database (.insert request)).persisted? =
      match (insertCoverage database request).result.outcome with
      | .ok _ => some request
      | .error _ => none := by
  simp only [Step.persisted?, Step.ofCall, Call.perform, recording, Call.request?]
  cases (insertCoverage database request).result.outcome <;> rfl

theorem persisted?_create (database : Database) (request : Request) (on : Date) :
    (Step.ofCall database (.create request on)).persisted? =
      match (createCoverage database request on).result.outcome with
      | .ok _ => some request
      | .error _ => none := by
  simp only [Step.persisted?, Step.ofCall, Call.perform, recording, Call.request?]
  cases (createCoverage database request on).result.outcome <;> rfl

theorem insertCoverage_of_error {request : Request} {fault : Fault}
    (failed : database.insert ledgerName (coverageRow request) = .error fault) :
    insertCoverage database request = ⟨database, answered .insertingCoverage (.error fault)⟩ := by
  unfold insertCoverage
  rw [show "Deckung" = ledgerName from rfl, failed]

theorem insertCoverage_of_ok {request : Request} {changed : Database} {count : Nat}
    (inserted : database.insert ledgerName (coverageRow request) = .ok (changed, count)) :
    insertCoverage database request = ⟨changed, insertedRows request count⟩ := by
  unfold insertCoverage
  rw [show "Deckung" = ledgerName from rfl, inserted]

theorem result_insertCoverage (database : Database) (request : Request) :
    (insertCoverage database request).result =
      match (database.insert ledgerName (coverageRow request)).map Prod.snd with
      | .error fault => answered .insertingCoverage (.error fault)
      | .ok count => insertedRows request count := by
  cases inserted : database.insert ledgerName (coverageRow request) with
  | error fault => rw [insertCoverage_of_error inserted]; rfl
  | ok result => rw [insertCoverage_of_ok inserted]; rfl

theorem result_createCoverage_congr {first second : Database} {request : Request} {on : Date}
    (checks : runChecks first request on = runChecks second request on)
    (insertion : (insertCoverage first request).result = (insertCoverage second request).result) :
    (createCoverage first request on).result = (createCoverage second request on).result := by
  unfold createCoverage
  simp only [checks]
  split
  · rfl
  · simp only [insertion]

theorem database_insertCoverage_record (pairs : LedgerTellsPairsApart database)
    (done : List Request) (request : Request) :
    (insertCoverage (record database done) request).database =
      record database
        (done ++ (Step.ofCall (record database done) (.insert request)).persisted?.toList) := by
  rw [persisted?_insert]
  cases inserted : (record database done).insert ledgerName (coverageRow request) with
  | error fault =>
      rw [insertCoverage_of_error inserted]
      simp
  | ok result =>
      obtain ⟨changed, count⟩ := result
      obtain ⟨_, after, foundThere, _, added, _⟩ := Database.insert_ok inserted
      cases found : database.table? ledgerName with
      | none => simp [record_of_no_table found, found] at foundThere
      | some table =>
          have plain := (pairs table found).not_numbering (by decide)
          rw [insertCoverage_of_ok inserted, insert_record found plain inserted]
          rcases Table.insert_ok added with ⟨rfl, _⟩ | ⟨rfl, _⟩
          · rfl
          · rfl

theorem createCoverage_record (pairs : LedgerTellsPairsApart database) {done : List Request}
    {request : Request} (apart : ∀ other ∈ done, PairsDiffer request other) (on : Date) :
    (createCoverage (record database done) request on).result =
        (createCoverage database request on).result ∧
      (createCoverage (record database done) request on).database =
        record database (done ++ (Step.ofCall database (.create request on)).persisted?.toList) := by
  have sameInsertion : (insertCoverage (record database done) request).result =
      (insertCoverage database request).result := by
    rw [result_insertCoverage, result_insertCoverage, count_insert_record pairs apart]
  have sameChecks := runChecks_record database done request on
  refine ⟨result_createCoverage_congr sameChecks sameInsertion, ?_⟩
  rw [persisted?_create]
  cases checked : (runChecks database request on).outcome with
  | error failure =>
      rw [(createCoverage_of_failure checked).2,
        (createCoverage_of_failure (sameChecks ▸ checked)).1]
      simp
  | ok value =>
      rw [(createCoverage_of_checks checked).2, (createCoverage_of_checks (sameChecks ▸ checked)).1,
        database_insertCoverage_record pairs, persisted?_insert, sameInsertion]

end Recording

abbrev Creation := Request × Date

def creationCalls (creations : List Creation) : List Call :=
  creations.map fun (request, on) => .create request on

/-- Each creation answers what it answers alone, and the ledger gains the rows of those that are
persisted. -/
theorem run_record {database : Database} (pairs : LedgerTellsPairsApart database)
    (creations : List Creation) (done : List Request)
    (apart : ∀ creation ∈ creations, ∀ other ∈ done, PairsDiffer creation.1 other)
    (different : creations.Pairwise fun first second => PairsDiffer first.1 second.1) :
    (∀ step ∈ run (record database done) (creationCalls creations),
        step.answer = (step.call.perform database).2) ∧
      lastDatabase (record database done) (run (record database done) (creationCalls creations)) =
        record database (done ++ (creationCalls creations).filterMap fun call =>
          (Step.ofCall database call).persisted?) := by
  induction creations generalizing done with
  | nil => simp [creationCalls, run, lastDatabase]
  | cons creation rest ih =>
      obtain ⟨request, on⟩ := creation
      obtain ⟨fromOthers, restDifferent⟩ := List.pairwise_cons.mp different
      obtain ⟨sameResult, sameDatabase⟩ :=
        createCoverage_record pairs (apart (request, on) (by simp)) on
      generalize kept : (Step.ofCall database (.create request on)).persisted? = persisted
        at sameDatabase
      have restApart : ∀ later ∈ rest, ∀ other ∈ done ++ persisted.toList,
          PairsDiffer later.1 other := by
        intro later member other recorded
        rcases List.mem_append.mp recorded with before | now
        · exact apart later (List.mem_cons_of_mem _ member) other before
        · have same : other = request := by
            rw [← kept, persisted?_create] at now
            split at now
            · simpa using now
            · simp at now
          subst same
          exact (fromOthers later member).symm
      obtain ⟨restAnswers, restLast⟩ := ih (done ++ persisted.toList) restApart restDifferent
      have after : (Step.ofCall (record database done) (.create request on)).after =
          record database (done ++ persisted.toList) := sameDatabase
      simp only [creationCalls, List.map_cons, run, lastDatabase, after]
      refine ⟨?_, ?_⟩
      · intro step member
        rcases List.mem_cons.mp member with rfl | later
        · simp only [Step.ofCall, Call.perform, recording, sameResult]
        · exact restAnswers step later
      · refine restLast.trans (congrArg (record database) ?_)
        rw [List.filterMap_cons, kept]
        cases persisted <;> simp [creationCalls]

structure SameInBothOrders (database : Database) (creations reordered : List Creation) : Prop where
  answers : ∀ step ∈ run database (creationCalls creations),
    ∀ other ∈ run database (creationCalls reordered), step.call = other.call →
      step.answer = other.answer
  ledger :
    ((lastDatabase database (run database (creationCalls creations))).rowsOf ledgerName).Perm
      ((lastDatabase database (run database (creationCalls reordered))).rowsOf ledgerName)
  others : (lastDatabase database (run database (creationCalls creations))).drop ledgerName =
    (lastDatabase database (run database (creationCalls reordered))).drop ledgerName

theorem rowsOf_record (database : Database) {requests reordered : List Request}
    (same : requests.Perm reordered) :
    ((record database requests).rowsOf ledgerName).Perm
      ((record database reordered).rowsOf ledgerName) := by
  cases found : database.table? ledgerName with
  | none => rw [record_of_no_table found, record_of_no_table found]
  | some table =>
      have rows (wanted : List Request) : (record database wanted).rowsOf ledgerName =
          if database.access = .unreadable then [] else table.rows ++ wanted.map fun request =>
            table.convertedRow (coverageRow request) := by
        rw [Database.rowsOf_of_relation (Database.table?_some_iff.mp (table?_record found wanted))]
        rfl
      rw [rows, rows]
      split
      · exact List.Perm.refl _
      · exact (same.map _).append_left _

theorem drop_record (database : Database) (requests : List Request) :
    (record database requests).drop ledgerName = database.drop ledgerName := by
  cases found : database.table? ledgerName with
  | none => rw [record_of_no_table found]
  | some table => exact Database.drop_updateTable found rfl

theorem sameInBothOrders {database : Database} (pairs : LedgerTellsPairsApart database)
    {creations reordered : List Creation} (same : creations.Perm reordered)
    (different : creations.Pairwise fun first second => PairsDiffer first.1 second.1) :
    SameInBothOrders database creations reordered := by
  have differentThere : reordered.Pairwise fun first second => PairsDiffer first.1 second.1 :=
    (same.pairwise_iff PairsDiffer.symm).mp different
  obtain ⟨answers, last⟩ := run_record pairs creations [] (by simp) different
  obtain ⟨answersThere, lastThere⟩ := run_record pairs reordered [] (by simp) differentThere
  simp only [record_nil, List.nil_append] at answers last answersThere lastThere
  have sameCalls : (creationCalls creations).Perm (creationCalls reordered) := same.map _
  have samePersisted := sameCalls.filterMap fun call => (Step.ofCall database call).persisted?
  refine ⟨?_, ?_, ?_⟩
  · intro step member other otherMember sameCall
    rw [answers step member, answersThere other otherMember, sameCall]
  · rw [last, lastThere]
    exact rowsOf_record database samePersisted
  · rw [last, lastThere, drop_record, drop_record]

def LedgerKeyedByPair (database : Database) : Prop :=
  ∃ table, database.table? ledgerName = some table ∧
    table.IsKeyedBy "Vertrag_FK" "Deckungsart_FK"

def Recorded (database : Database) (request : Request) : Prop :=
  ∃ table, database.table? ledgerName = some table ∧
    ∃ row ∈ table.rows, table.Holds (coverageRow request) row

theorem LedgerKeyedByPair.of_grown {first later : Database} {added : List Row}
    (grown : Database.Grown ledgerName first later added) (keyed : LedgerKeyedByPair first) :
    LedgerKeyedByPair later := by
  obtain ⟨table, found, key⟩ := keyed
  obtain ⟨changed, changedFound, ⟨used, same⟩, _⟩ := grown.rows table found
  exact ⟨changed, changedFound, by rwa [same]⟩

theorem Recorded.of_grown {first later : Database} {added : List Row} {request : Request}
    (grown : Database.Grown ledgerName first later added) (recorded : Recorded first request) :
    Recorded later request := by
  obtain ⟨table, found, row, stored, holds⟩ := recorded
  obtain ⟨changed, changedFound, same, rows⟩ := grown.rows table found
  exact ⟨changed, changedFound, row, rows.mem_iff.mpr (List.mem_append_right _ stored),
    (same.holds_iff _ row).mpr holds⟩

theorem conflict_of_recorded {database : Database} {table : Table}
    (found : database.table? ledgerName = some table)
    (key : table.IsKeyedBy "Vertrag_FK" "Deckungsart_FK") {taken request : Request}
    (recorded : Recorded database taken) (contract : request.contract = taken.contract)
    (coverageType : request.coverageType = taken.coverageType) :
    (table.conflict? (table.convertedRow (coverageRow request))).isSome = true := by
  obtain ⟨recordedTable, recordedFound, row, stored, holds⟩ := recorded
  rw [found] at recordedFound
  cases recordedFound
  have alike {name : String} {value : Value} (given : value ≠ .null)
      (asked : (name, value) ∈ coverageRow request) (held : (name, value) ∈ coverageRow taken) :
      ∃ index value, columnIndex? table.columns name = some index ∧ value ≠ .null ∧
        (table.convertedRow (coverageRow request)).valueAt index = value ∧
        row.valueAt index = value := by
    obtain ⟨index, column, indexed, atIndex, rowHolds⟩ := holds (name, value) held
    obtain ⟨other, _, _, otherAtIndex, converted⟩ :=
      Table.valueAt_of_assigned (coverageRow_distinct request) asked indexed
    rw [atIndex] at otherAtIndex
    cases otherAtIndex
    exact ⟨index, _, indexed, Value.stored_ne_null given column.affinity, converted, rowHolds⟩
  refine key.conflict stored ?_
  rintro name (rfl | rfl)
  · exact alike (by simp) (contract_mem_coverageRow request)
      (contract ▸ contract_mem_coverageRow taken)
  · exact alike (by simp) (coverageType_mem_coverageRow request)
      (coverageType ▸ coverageType_mem_coverageRow taken)

theorem insertCoverage_of_recorded {database : Database} (keyed : LedgerKeyedByPair database)
    {taken request : Request} (recorded : Recorded database taken)
    (contract : request.contract = taken.contract)
    (coverageType : request.coverageType = taken.coverageType) :
    ∃ cause, (insertCoverage database request).result.outcome =
      .error (.dataAccess .insertingCoverage cause) := by
  cases inserted : database.insert ledgerName (coverageRow request) with
  | error fault =>
      rw [insertCoverage_of_error inserted]
      exact ⟨.store fault, rfl⟩
  | ok result =>
      obtain ⟨changed, count⟩ := result
      rw [insertCoverage_of_ok inserted]
      obtain ⟨table, after, found, known, added, _⟩ := Database.insert_ok inserted
      obtain ⟨keyTable, keyFound, key⟩ := keyed
      rw [found] at keyFound
      cases keyFound
      rcases Table.insert_ok added with ⟨rfl, _⟩ | ⟨rfl, _⟩
      · exact ⟨.rowCount 0, rfl⟩
      · have conflict := conflict_of_recorded found key recorded contract coverageType
        rw [Table.conflict?_of_insert key.not_numbering added] at conflict
        exact absurd conflict (by simp)

theorem recorded_of_persisted {database : Database} {call : Call} {request : Request}
    (persisted : (Step.ofCall database call).persisted? = some request) :
    Recorded (Step.ofCall database call).after request := by
  obtain ⟨added, records, grown⟩ := step_grows database call
  rw [persisted] at records
  cases records with
  | cons record rest =>
      cases rest
      obtain ⟨table, found, holds⟩ := record
      obtain ⟨changed, changedFound, same, rows⟩ := grown.rows table found
      exact ⟨changed, changedFound, _, rows.mem_iff.mpr (by simp), (same.holds_iff _ _).mpr holds⟩

theorem grown_of_mem_run {database : Database} {calls : List Call} {step : Step}
    (member : step ∈ run database calls) :
    ∃ added, Database.Grown ledgerName database step.before added := by
  induction calls generalizing database with
  | nil => simp [run] at member
  | cons call rest ih =>
      rcases List.mem_cons.mp member with rfl | later
      · exact ⟨[], Database.Grown.refl ledgerName database⟩
      · obtain ⟨first, _, firstGrown⟩ := step_grows database call
        obtain ⟨others, othersGrown⟩ := ih later
        exact ⟨first ++ others, firstGrown.trans othersGrown⟩

/-- Behind a step that persisted a request, a creation for the same pair persists nothing, fails at
the insertion if it gets there, and leaves what was recorded. -/
def TakenOnce (earlier later : Step) : Prop :=
  ∀ taken request on, earlier.persisted? = some taken → later.call = .create request on →
    request.contract = taken.contract → request.coverageType = taken.coverageType →
      later.persisted? = none ∧ later.after = later.before ∧ Recorded later.after taken ∧
        ((runChecks later.before request on).outcome = .ok () →
          ∃ cause, later.answer = .error (.dataAccess .insertingCoverage cause))

theorem takenOnce_of_recorded {database : Database} {request taken : Request} {on : Date}
    (keyed : LedgerKeyedByPair database) (recorded : Recorded database taken)
    (contract : request.contract = taken.contract)
    (coverageType : request.coverageType = taken.coverageType) :
    let later := Step.ofCall database (.create request on)
    later.persisted? = none ∧ later.after = later.before ∧ Recorded later.after taken ∧
      ((runChecks later.before request on).outcome = .ok () →
        ∃ cause, later.answer = .error (.dataAccess .insertingCoverage cause)) := by
  obtain ⟨cause, refused⟩ := insertCoverage_of_recorded keyed recorded contract coverageType
  have failed : ∃ failure, (createCoverage database request on).result.outcome = .error failure ∧
      ((runChecks database request on).outcome = .ok () →
        failure = .dataAccess .insertingCoverage cause) := by
    cases checked : (runChecks database request on).outcome with
    | error failure =>
        exact ⟨failure, (createCoverage_of_failure checked).2, fun passed => by simp at passed⟩
    | ok value =>
        exact ⟨_, (createCoverage_of_checks checked).2.trans refused, fun _ => rfl⟩
  obtain ⟨failure, outcome, atInsertion⟩ := failed
  have nothing : (Step.ofCall database (.create request on)).persisted? = none := by
    rw [persisted?_create, outcome]
  have still := step_unchanged_of_not_persisted database _ nothing
  refine ⟨nothing, still, ?_, ?_⟩
  · rwa [still]
  · intro passed
    refine ⟨cause, ?_⟩
    simp [Step.ofCall, Call.perform, recording, outcome, atInsertion passed, Except.map]

theorem run_takenOnce {database : Database} (keyed : LedgerKeyedByPair database)
    (calls : List Call) : (run database calls).Pairwise TakenOnce := by
  induction calls generalizing database with
  | nil => exact List.Pairwise.nil
  | cons call rest ih =>
      obtain ⟨added, _, grown⟩ := step_grows database call
      refine List.pairwise_cons.mpr ⟨?_, ih (keyed.of_grown grown)⟩
      intro later member taken request on persisted called contract coverageType
      obtain ⟨between, laterGrown⟩ := grown_of_mem_run member
      have recorded := (recorded_of_persisted persisted).of_grown laterGrown
      have laterKeyed := (keyed.of_grown grown).of_grown laterGrown
      have whole := mem_run member
      rw [called] at whole
      rw [whole]
      exact takenOnce_of_recorded laterKeyed recorded contract coverageType

/-- Where only contract and coverage type together tell the rows of the ledger apart, creations for
different pairs commute; where the pair is its key, each pair is taken once. -/
theorem creations_commute_and_pairs_are_taken_once (database : Database) :
    (LedgerTellsPairsApart database → ∀ creations reordered : List Creation,
      creations.Perm reordered →
      creations.Pairwise (fun first second => PairsDiffer first.1 second.1) →
      SameInBothOrders database creations reordered) ∧
    (LedgerKeyedByPair database → ∀ calls, (run database calls).Pairwise TakenOnce) :=
  ⟨fun pairs _ _ same different => sameInBothOrders pairs same different,
    fun keyed calls => run_takenOnce keyed calls⟩

theorem persisted?_congr {first second : Step} (sameCall : first.call = second.call)
    (sameAnswer : first.answer = second.answer) : first.persisted? = second.persisted? := by
  simp only [Step.persisted?, sameCall, sameAnswer]

def fiveThousand : Decimal := { Sample.tenThousand with mantissa := 5000, mantissa_lt := by decide }

def secondRequest : Request := ⟨⟨100⟩, ⟨9⟩, fiveThousand⟩

def firstCreation : Creation := (Sample.request, Sample.day)

def secondCreation : Creation := (secondRequest, Sample.day)

theorem creations_different : [firstCreation, secondCreation].Pairwise
    fun first second => PairsDiffer first.1 second.1 := by
  unfold PairsDiffer
  decide +kernel

def oneCoverageEach : Database :=
  (Sample.database.drop ledgerName).add <| .table <| .declare "Deckung"
    [("Vertrag_FK", "INTEGER UNIQUE"), ("Deckungsart_FK", "INTEGER"),
      ("Deckungsbetrag", "NUMBER(10, 2)")]

theorem oneCoverageEach_depends_on_order :
    [firstCreation, secondCreation].Perm [secondCreation, firstCreation] ∧
      [firstCreation, secondCreation].Pairwise (fun first second => PairsDiffer first.1 second.1) ∧
      ¬SameInBothOrders oneCoverageEach [firstCreation, secondCreation]
        [secondCreation, firstCreation] := by
  refine ⟨List.Perm.swap _ _ [], creations_different, ?_⟩
  intro same
  let call := Call.create Sample.request Sample.day
  let behind := (Step.ofCall oneCoverageEach (.create secondRequest Sample.day)).after
  have sameCall : (Step.ofCall oneCoverageEach call).call = (Step.ofCall behind call).call :=
    show call = call from rfl
  have sameAnswer := same.answers (Step.ofCall oneCoverageEach call) List.mem_cons_self
    (Step.ofCall behind call) (List.mem_cons_of_mem _ List.mem_cons_self) sameCall
  have first : (Step.ofCall oneCoverageEach call).persisted? = some Sample.request := by
    decide +kernel
  have second : (Step.ofCall behind call).persisted? = none := by
    decide +kernel
  have alike : (Step.ofCall oneCoverageEach call).persisted? =
      (Step.ofCall behind call).persisted? :=
    persisted?_congr sameCall sameAnswer
  rw [first, second] at alike
  cases alike

theorem sample_creations_commute :
    LedgerTellsPairsApart Sample.database ∧ LedgerKeyedByPair Sample.database ∧
      SameInBothOrders Sample.database [firstCreation, secondCreation]
        [secondCreation, firstCreation] ∧
      (run Sample.database (creationCalls [firstCreation, secondCreation, firstCreation])).Pairwise
        TakenOnce := by
  have found : Sample.database.table? ledgerName = some Schema.coverages := by decide +kernel
  have pairs : LedgerTellsPairsApart Sample.database := by
    intro table there
    rw [found] at there
    cases there
    exact ⟨by decide +kernel, by decide +kernel⟩
  have keyed : LedgerKeyedByPair Sample.database :=
    ⟨Schema.coverages, found, "Vertrag_FK", "Deckungsart_FK", rfl, by decide, by decide⟩
  obtain ⟨commute, taken⟩ := creations_commute_and_pairs_are_taken_once Sample.database
  exact ⟨pairs, keyed, commute pairs _ _ (List.Perm.swap _ _ []) creations_different,
    taken keyed _⟩

end Underwriting.Gate
