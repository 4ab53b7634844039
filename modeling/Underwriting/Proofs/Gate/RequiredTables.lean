import Underwriting.Proofs.Gate.Explanation
import Underwriting.Proofs.Gate.Ledger
import Underwriting.Proofs.Store.MissingTable
import Underwriting.Store.Sample

/-!
The tables that the probe requires against those that the gate needs. Each stage of the gate makes
one statement, and the required tables are the tables of these statements. So a database is healthy
exactly if no stage fails for the lack of a table, whatever the tables hold.
-/

namespace Underwriting.Gate

open Store

inductive Stage
  | contract
  | coverageType
  | product
  | amount
  | price
  | rules
  | insertion

def faultOf {α : Type} : Except Fault α → Option Fault
  | .ok _ => none
  | .error fault => some fault

theorem faultOf_eq_some_iff {α : Type} {answer : Except Fault α} {fault : Fault} :
    faultOf answer = some fault ↔ answer = .error fault := by
  cases answer <;> simp [faultOf]

namespace Stage

def tables : Stage → List String
  | .contract => ["Vertrag"]
  | .coverageType => ["Deckungsart"]
  | .product => ["Vertrag", "Deckungsart"]
  | .amount => ["Deckungsbetrag"]
  | .price => ["Deckungspreis", "Deckungsbetrag"]
  | .rules => ["Ablehnungsregel", "Vertrag", "Kunde"]
  | .insertion => ["Deckung"]

def fault? (database : Database) (request : Request) (on : Date) : Stage → Option Fault
  | .contract => faultOf (Query.contractExists database request.contract)
  | .coverageType => faultOf (Query.coverageTypeExists database request.coverageType)
  | .product => faultOf (Query.productMatches database request.contract request.coverageType)
  | .amount => faultOf (Query.amountListed database request.coverageType request.amount)
  | .price => faultOf (Query.priceValid database request.coverageType request.amount on)
  | .rules => faultOf (Query.rejectionRules database request.coverageType request.contract)
  | .insertion => faultOf (database.insert "Deckung" (coverageRow request))

def operation : Stage → Operation
  | .contract => .checkingContract
  | .coverageType => .checkingCoverageType
  | .product => .checkingProduct
  | .amount => .checkingAmount
  | .price => .checkingPrice
  | .rules => .checkingRules
  | .insertion => .insertingCoverage

def call (request : Request) (on : Date) : Stage → Call
  | .contract => .checkContract request.contract
  | .coverageType => .checkCoverageType request.coverageType
  | .product => .checkProduct request.contract request.coverageType
  | .amount => .checkAmount request.coverageType request.amount
  | .price => .checkPrice request.coverageType request.amount on
  | .rules => .checkRules request
  | .insertion => .insert request

end Stage

theorem mem_requiredTables_iff {table : String} :
    table ∈ requiredTables ↔ ∃ stage : Stage, table ∈ stage.tables := by
  constructor
  · intro required
    simp only [requiredTables, List.mem_cons, List.not_mem_nil, or_false] at required
    rcases required with rfl | rfl | rfl | rfl | rfl | rfl | rfl
    · exact ⟨.contract, by decide⟩
    · exact ⟨.rules, by decide⟩
    · exact ⟨.coverageType, by decide⟩
    · exact ⟨.amount, by decide⟩
    · exact ⟨.price, by decide⟩
    · exact ⟨.rules, by decide⟩
    · exact ⟨.insertion, by decide⟩
  · rintro ⟨stage, member⟩
    revert table
    cases stage <;> simp [Stage.tables, requiredTables]

variable {database : Database} {request : Request} {on : Date}

/-- A statement misses the first of its tables that is not there, and nothing else. -/
theorem Stage.fault?_eq_noSuchTable_iff (readable : database.access ≠ .unreadable) (stage : Stage)
    {table : String} :
    stage.fault? database request on = some (.noSuchTable table) ↔
      database.firstMissing? stage.tables = some table := by
  cases stage with
  | contract => exact faultOf_eq_some_iff.trans (Database.contractExists_needs readable _ table)
  | coverageType =>
      exact faultOf_eq_some_iff.trans (Database.coverageTypeExists_needs readable _ table)
  | product => exact faultOf_eq_some_iff.trans (Database.productMatches_needs readable _ _ table)
  | amount => exact faultOf_eq_some_iff.trans (Database.amountListed_needs readable _ _ table)
  | price => exact faultOf_eq_some_iff.trans (Database.priceValid_needs readable _ _ _ table)
  | rules => exact faultOf_eq_some_iff.trans (Database.rejectionRules_needs readable _ _ table)
  | insertion => exact faultOf_eq_some_iff.trans (Database.insert_needs readable _ _ table)

theorem outcome_require_of_fault {answer : Except Fault Bool} {fault : Fault}
    (failed : faultOf answer = some fault) (operation : Operation) (asking refusing : Event)
    (failure : Failure) :
    (require operation asking answer refusing failure).outcome =
      .error (.dataAccess operation (.store fault)) := by
  rw [outcome_require, faultOf_eq_some_iff.mp failed, decided]

theorem Stage.perform_call {stage : Stage} {fault : Fault}
    (failed : stage.fault? database request on = some fault) :
    ((stage.call request on).perform database).2 =
      .error (.dataAccess stage.operation (.store fault)) := by
  cases stage with
  | rules =>
      have answer := faultOf_eq_some_iff.mp failed
      simp [Stage.call, Call.perform, readOnly, checkRules, storedRules, Traced.outcome_bind,
        answer, Except.bind, Except.map, Stage.operation]
  | insertion =>
      have answer := faultOf_eq_some_iff.mp failed
      simp [Stage.call, Call.perform, recording, insertCoverage, answer, Except.map,
        Stage.operation]
  | _ =>
      simp only [Stage.call, Call.perform, readOnly, checkContract, checkCoverageType,
        checkProduct, checkAmount, checkPrice, outcome_require_of_fault failed]
      rfl

def NamesMissing {α : Type} (database : Database) (outcome : Except Failure α) : Prop :=
  ∀ operation table, outcome = .error (.dataAccess operation (.store (.noSuchTable table))) →
    table ∈ requiredTables ∧ database.relation? table = none

namespace NamesMissing

variable {α β : Type}

theorem ok (value : α) : NamesMissing database (.ok value) := by
  simp [NamesMissing]

theorem failure {failure : Failure}
    (other : ∀ operation table, failure ≠ .dataAccess operation (.store (.noSuchTable table))) :
    NamesMissing database (.error failure : Except Failure α) := by
  simp [NamesMissing, other]

theorem bind {outcome : Except Failure α} {next : α → Except Failure β}
    (names : NamesMissing database outcome) (others : ∀ value, NamesMissing database (next value)) :
    NamesMissing database (outcome.bind next) := by
  cases outcome with
  | ok value => exact others value
  | error failure =>
      intro operation table same
      cases same
      exact names operation table rfl

theorem followed {first : Check α} {next : α → Check β}
    (names : NamesMissing database first.outcome)
    (others : ∀ value, NamesMissing database (next value).outcome) :
    NamesMissing database (first >>= next).outcome := by
  rw [Traced.outcome_bind]
  exact names.bind others

theorem map {outcome : Except Failure α} (names : NamesMissing database outcome) (change : α → β) :
    NamesMissing database (outcome.map change) :=
  names.bind fun value => ok (change value)

theorem answered {tables : List String} {answer : Except Fault α} (operation : Operation)
    (needs : Needs database tables answer) (required : tables ⊆ requiredTables) :
    NamesMissing database (answered operation answer).outcome := by
  cases failed : answer with
  | ok value => exact ok value
  | error fault =>
      intro told table same
      simp only [outcome_answered_error, Except.error.injEq, Failure.dataAccess.injEq,
        Cause.store.injEq] at same
      obtain ⟨_, rfl⟩ := same
      obtain ⟨member, missing⟩ := Database.firstMissing?_some ((needs table).mp failed)
      exact ⟨required member, missing⟩

theorem require {tables : List String} {answer : Except Fault Bool}
    (needs : Needs database tables answer) (required : tables ⊆ requiredTables)
    {rejection : Failure} (rejects : rejection.isRejection = true) (operation : Operation)
    (asking refusing : Event) :
    NamesMissing database (require operation asking answer refusing rejection).outcome := by
  refine followed (ok ()) fun _ => followed (answered operation needs required) fun found => ?_
  split
  · exact ok ()
  · refine followed (ok ()) fun _ => failure ?_
    rintro told table rfl
    cases rejects

end NamesMissing

theorem Stage.tables_subset (stage : Stage) : stage.tables ⊆ requiredTables :=
  fun _ member => mem_requiredTables_iff.mpr ⟨stage, member⟩

theorem decode_needs (database : Database) (stored : StoredRule) :
    Needs database [] (decode stored) := by
  have wholeNumber (index : Nat) (output : Output) :
      Needs database [] (Decoding.wholeNumber index output) := by
    unfold Decoding.wholeNumber
    split
    · exact Needs.ok database _
    · exact Needs.fault (by simp)
  have optionalText (index : Nat) (output : Output) :
      Needs database [] (Decoding.optionalText index output) := by
    unfold Decoding.optionalText
    split
    · exact Needs.ok database _
    · exact Needs.ok database _
    · exact Needs.fault (by simp)
  have date (index : Nat) (output : Output) : Needs database [] (Decoding.date index output) := by
    unfold Decoding.date
    split
    · split
      · exact Needs.ok database _
      · exact Needs.fault (by simp)
    · exact Needs.fault (by simp)
  unfold decode
  refine Needs.bind (wholeNumber 0 _) fun sequence => ?_
  refine Needs.bind (optionalText 1 _) fun ageRule => ?_
  refine Needs.bind (optionalText 2 _) fun amountRule => ?_
  refine Needs.bind (date 3 _) fun contractStart => ?_
  exact Needs.bind (date 4 _) fun birthDate => Needs.ok database _

theorem decodeAll_needs (database : Database) (found : List StoredRule) :
    Needs database [] (decodeAll found) := by
  induction found with
  | nil => exact Needs.ok database []
  | cons stored rest ih =>
      refine Needs.bind (decode_needs database stored) fun dated => ?_
      exact Needs.bind ih fun others => Needs.ok database _

namespace NamesMissing

theorem evaluated (database : Database) (dated : DatedRule) (amount : Decimal) :
    NamesMissing database (evaluated dated amount).outcome := by
  unfold Gate.evaluated
  dsimp only
  split
  · exact ok _
  · exact failure (by simp)

theorem checkEach (database : Database) (request : Request) (found : List StoredRule) :
    NamesMissing database (checkEach request found).outcome := by
  induction found with
  | nil => exact ok ()
  | cons stored rest ih =>
      refine followed ?_ fun _ => ih
      have needs := decode_needs database stored
      refine followed (answered .checkingRules needs (List.nil_subset _)) fun dated => ?_
      refine followed (evaluated database dated _) fun evaluation => ?_
      refine followed (ok ()) fun _ => ?_
      split
      · exact followed (ok ()) fun _ => failure (by simp)
      · exact ok ()

theorem evaluateEach (database : Database) (amount : Decimal) (rules : List DatedRule) :
    NamesMissing database (evaluateEach amount rules).outcome := by
  induction rules with
  | nil => exact ok []
  | cons dated rest ih =>
      refine followed (evaluated database dated amount) fun evaluation => ?_
      exact followed ih fun evaluations => ok _

variable (readable : database.access ≠ .unreadable)

include readable

theorem checkContract (contract : ContractId) :
    NamesMissing database (checkContract database contract).outcome :=
  require (Database.contractExists_needs readable contract) (Stage.tables_subset .contract) rfl
    _ _ _

theorem checkCoverageType (coverageType : CoverageTypeId) :
    NamesMissing database (checkCoverageType database coverageType).outcome :=
  require (Database.coverageTypeExists_needs readable coverageType)
    (Stage.tables_subset .coverageType) rfl _ _ _

theorem checkProduct (contract : ContractId) (coverageType : CoverageTypeId) :
    NamesMissing database (checkProduct database contract coverageType).outcome :=
  require (Database.productMatches_needs readable contract coverageType)
    (Stage.tables_subset .product) rfl _ _ _

theorem checkAmount (coverageType : CoverageTypeId) (amount : Decimal) :
    NamesMissing database (checkAmount database coverageType amount).outcome :=
  require (Database.amountListed_needs readable coverageType amount) (Stage.tables_subset .amount)
    rfl _ _ _

theorem checkPrice (coverageType : CoverageTypeId) (amount : Decimal) (on : Date) :
    NamesMissing database (checkPrice database coverageType amount on).outcome :=
  require (Database.priceValid_needs readable coverageType amount on) (Stage.tables_subset .price)
    rfl _ _ _

theorem runLookups (request : Request) (on : Date) :
    NamesMissing database (runLookups database request on).outcome := by
  refine followed (checkContract readable _) fun _ => ?_
  refine followed (checkCoverageType readable _) fun _ => ?_
  refine followed (checkProduct readable _ _) fun _ => ?_
  exact followed (checkAmount readable _ _) fun _ => checkPrice readable _ _ on

theorem checkRules (request : Request) :
    NamesMissing database (checkRules database request).outcome := by
  have needs := Database.rejectionRules_needs readable request.coverageType request.contract
  refine followed (ok ()) fun _ => ?_
  refine followed (answered .checkingRules needs (Stage.tables_subset .rules)) fun found => ?_
  exact followed (checkEach database request found) fun _ => ok ()

theorem explainRules (request : Request) :
    NamesMissing database (explainRules database request).outcome := by
  have needs := (Database.rejectionRules_needs readable request.coverageType request.contract).bind
    (decodeAll_needs database)
  refine followed (answered .checkingRules needs (Stage.tables_subset .rules)) fun rules => ?_
  exact followed (evaluateEach database request.amount rules) fun evaluations => ok _

theorem validate (request : Request) (on : Date) :
    NamesMissing database (validate database request on).outcome := by
  rw [outcome_validate]
  exact followed (runLookups readable request on) fun _ => checkRules readable request

theorem insertCoverage (request : Request) :
    NamesMissing database (insertCoverage database request).result.outcome := by
  have needs := Database.insert_needs readable "Deckung" (coverageRow request)
  unfold Gate.insertCoverage
  split
  · next fault failed =>
      have faultNeeds : Needs database ["Deckung"] (.error fault : Except Fault Coverage) :=
        fun table => by simpa [failed] using needs table
      exact answered .insertingCoverage faultNeeds (Stage.tables_subset .insertion)
  · next changed affected _ =>
      unfold insertedRows
      split
      · exact followed (ok ()) fun _ => ok _
      · exact followed (ok ()) fun _ => failure (by simp)

theorem createCoverage (request : Request) (on : Date) :
    NamesMissing database (createCoverage database request on).result.outcome := by
  rw [outcome_createCoverage]
  exact (validate readable request on).bind fun _ => insertCoverage readable request

theorem probe (name : String) : NamesMissing database (probe database name).outcome := by
  rw [probe_ok_iff.mpr ⟨readable, rfl⟩]
  exact ok _

/-- Whatever is asked of the gate, a table that it misses is a required one that is not there. -/
theorem perform (call : Call) : NamesMissing database (call.perform database).2 := by
  cases call with
  | validate request on => exact (validate readable request on).map _
  | create request on => exact (createCoverage readable request on).map _
  | insert request => exact (insertCoverage readable request).map _
  | checkContract contract => exact (checkContract readable contract).map _
  | checkCoverageType coverageType => exact (checkCoverageType readable coverageType).map _
  | checkProduct contract coverageType =>
      exact (checkProduct readable contract coverageType).map _
  | checkAmount coverageType amount => exact (checkAmount readable coverageType amount).map _
  | checkPrice coverageType amount on => exact (checkPrice readable coverageType amount on).map _
  | runLookups request on => exact (runLookups readable request on).map _
  | checkRules request => exact (checkRules readable request).map _
  | explainRules request => exact (explainRules readable request).map _
  | probe name => exact (probe readable name).map _

end NamesMissing

def ViewsApart (database : Database) : Prop :=
  ∀ view columns rows, Relation.view view columns rows ∈ database.relations →
    ∀ required ∈ requiredTables, sameName view required = false

theorem ViewsApart.relation?_eq_none_iff (apart : ViewsApart database) {table : String}
    (required : table ∈ requiredTables) :
    database.relation? table = none ↔ database.table? table = none := by
  unfold Database.table?
  cases found : database.relation? table with
  | none => simp
  | some relation =>
      cases relation with
      | table base => simp
      | view view columns rows =>
          have named : sameName view table = true := (Database.relation?_some found).1
          have different := apart view columns rows (List.mem_of_find?_eq_some found) table required
          rw [named] at different
          cases different

variable {name : String} {report : DoctorReport}

theorem rows_eq (probed : (probe database name).outcome = .ok report) {status : TableStatus}
    (member : status ∈ report.tables) :
    status.rows = (database.table? status.name).map (·.rows.length) := by
  obtain ⟨_, rfl⟩ := probe_ok_iff.mp probed
  simp only [List.mem_append, List.mem_map] at member
  rcases member with ⟨table, _, rfl⟩ | ⟨table, _, rfl⟩
  · rfl
  · rfl

theorem ViewsApart.mem_missingTables_iff (apart : ViewsApart database)
    (probed : (probe database name).outcome = .ok report) {table : String} :
    table ∈ report.missingTables ↔ table ∈ requiredTables ∧ database.relation? table = none := by
  rw [missingTables_eq probed, List.mem_filter, Option.isNone_iff_eq_none]
  exact and_congr_right fun required => (apart.relation?_eq_none_iff required).symm

theorem isHealthy_iff : report.isHealthy = true ↔ ∀ table, table ∉ report.missingTables := by
  rw [DoctorReport.isHealthy, List.isEmpty_iff, List.eq_nil_iff_forall_not_mem]

theorem ViewsApart.exists_fault (apart : ViewsApart database)
    (probed : (probe database name).outcome = .ok report) {stage : Stage} {missing : String}
    (used : missing ∈ stage.tables) (reported : missing ∈ report.missingTables)
    (request : Request) (on : Date) :
    ∃ table ∈ report.missingTables,
      stage.fault? database request on = some (.noSuchTable table) := by
  obtain ⟨readable, _⟩ := probe_ok_iff.mp probed
  have absent := ((apart.mem_missingTables_iff probed).mp reported).2
  obtain ⟨table, first⟩ := Option.isSome_iff_exists.mp
    (Database.firstMissing?_isSome_iff.mpr ⟨missing, used, absent⟩)
  obtain ⟨member, gone⟩ := Database.firstMissing?_some first
  exact ⟨table, (apart.mem_missingTables_iff probed).mpr ⟨stage.tables_subset member, gone⟩,
    (stage.fault?_eq_noSuchTable_iff readable).mpr first⟩

/-- The probe and the gate on a database in which no view goes by the name of a required table. The
report, which there is unless the file is no database, is healthy exactly if no statement of the
gate fails for the lack of a table; then no call does, and otherwise the stage of each missing table
does when it is called directly. Each table is reported with its rows, and the missing tables are
the required ones that are not there. -/
theorem probe_agrees_with_gate (database : Database) (name : String)
    (apart : ViewsApart database) :
    ((∃ report, (probe database name).outcome = .ok report) ↔ database.access ≠ .unreadable) ∧
      ∀ report, (probe database name).outcome = .ok report →
        (∀ request on, report.isHealthy = true ↔
          ∀ (stage : Stage) table,
            stage.fault? database request on ≠ some (.noSuchTable table)) ∧
        (report.isHealthy = true → ∀ (call : Call) operation table,
          (call.perform database).2 ≠
            .error (.dataAccess operation (.store (.noSuchTable table)))) ∧
        (∀ missing ∈ report.missingTables, ∃ stage : Stage, missing ∈ stage.tables ∧
          ∀ request on, ∃ table ∈ report.missingTables,
            ((stage.call request on).perform database).2 =
              .error (.dataAccess stage.operation (.store (.noSuchTable table)))) ∧
        report.tables.map (·.name) = requiredTables ++ optionalTables ∧
        (∀ status ∈ report.tables,
          status.rows = (database.table? status.name).map (·.rows.length)) ∧
        report.missingTables =
          requiredTables.filter fun table => (database.table? table).isNone := by
  refine ⟨⟨?_, fun readable => ⟨_, probe_ok_iff.mpr ⟨readable, rfl⟩⟩⟩, ?_⟩
  · rintro ⟨report, probed⟩
    exact (probe_ok_iff.mp probed).1
  intro report probed
  obtain ⟨readable, whole⟩ := probe_ok_iff.mp probed
  have failing {missing : String} (reported : missing ∈ report.missingTables) :
      ∃ stage : Stage, missing ∈ stage.tables ∧ ∀ request on, ∃ table ∈ report.missingTables,
        stage.fault? database request on = some (.noSuchTable table) := by
    have required := ((apart.mem_missingTables_iff probed).mp reported).1
    obtain ⟨stage, used⟩ := mem_requiredTables_iff.mp required
    exact ⟨stage, used, apart.exists_fault probed used reported⟩
  refine ⟨?_, ?_, ?_, by simp [whole, tableStatus, Function.comp_def],
    fun status member => rows_eq probed member, missingTables_eq probed⟩
  · intro request on
    rw [isHealthy_iff]
    constructor
    · intro healthy stage table failed
      have first := (stage.fault?_eq_noSuchTable_iff readable).mp failed
      obtain ⟨member, gone⟩ := Database.firstMissing?_some first
      exact healthy table
        ((apart.mem_missingTables_iff probed).mpr ⟨stage.tables_subset member, gone⟩)
    · intro whole missing reported
      obtain ⟨stage, _, fails⟩ := failing reported
      obtain ⟨table, _, failed⟩ := fails request on
      exact whole stage table failed
  · intro healthy call operation table failed
    exact isHealthy_iff.mp healthy table
      ((apart.mem_missingTables_iff probed).mpr
        (NamesMissing.perform readable call operation table failed))
  · intro missing reported
    obtain ⟨stage, used, fails⟩ := failing reported
    refine ⟨stage, used, fun request on => ?_⟩
    obtain ⟨table, member, failed⟩ := fails request on
    exact ⟨table, member, Stage.perform_call failed⟩

/-- The table of customers is missed under any case of its name. -/
theorem dropped_customers_are_missed :
    let database := (Sample.singleContract 1 []).drop "kunde"
    ViewsApart database ∧ ∃ report, (probe database "portfolio").outcome = .ok report ∧
      report.missingTables = ["Kunde"] ∧ report.isHealthy = false ∧
      ((Call.checkRules Sample.request).perform database).2 =
        .error (.dataAccess .checkingRules (.store (.noSuchTable "Kunde"))) := by
  intro database
  have apart : ViewsApart database := by
    intro view columns rows member
    have kept := List.mem_of_mem_filter member
    simp [Sample.singleContract, Database.ofTables] at kept
  obtain ⟨reported, agrees⟩ := probe_agrees_with_gate database "portfolio" apart
  obtain ⟨report, probed⟩ := reported.mpr (by decide)
  obtain ⟨_, _, missed, _, _, missing⟩ := agrees report probed
  have alone : report.missingTables = ["Kunde"] := by
    rw [missing]
    decide +kernel
  refine ⟨apart, report, probed, alone, by simp [DoctorReport.isHealthy, alone], ?_⟩
  rw [alone] at missed
  obtain ⟨stage, used, fails⟩ := missed "Kunde" (by simp)
  obtain ⟨table, member, failed⟩ := fails Sample.request Sample.day
  obtain rfl := List.mem_singleton.mp member
  -- Only the search for rejection rules reads the customers.
  cases stage with
  | rules => exact failed
  | _ => simp [Stage.tables] at used

end Underwriting.Gate
