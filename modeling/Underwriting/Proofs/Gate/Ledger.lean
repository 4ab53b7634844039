import Mathlib.Data.List.Forall2
import Underwriting.Gate.Doctor
import Underwriting.Proofs.Gate.Outcome
import Underwriting.Proofs.Store.Insertion

/-!
The table of coverages as a ledger. Whatever is asked of the gate, in whatever order, inside or
outside a transaction, the ledger gains one row for each coverage that was reported as persisted
and nothing else in the database changes; a call that fails leaves no mark at all.
-/

namespace Underwriting.Gate

open Store

inductive Call
  | validate (request : Request) (on : Date)
  | create (request : Request) (on : Date)
  | insert (request : Request)
  | checkContract (contract : ContractId)
  | checkCoverageType (coverageType : CoverageTypeId)
  | checkProduct (contract : ContractId) (coverageType : CoverageTypeId)
  | checkAmount (coverageType : CoverageTypeId) (amount : Decimal)
  | checkPrice (coverageType : CoverageTypeId) (amount : Decimal) (on : Date)
  | runLookups (request : Request) (on : Date)
  | checkRules (request : Request)
  | explainRules (request : Request)
  | probe (name : String)

inductive Answer
  | passed
  | persisted (coverage : Coverage)
  | explained (report : RuleReport)
  | probed (report : DoctorReport)

def readOnly {α : Type} (database : Database) (check : Check α) (answer : α → Answer) :
    Database × Except Failure Answer :=
  (database, check.outcome.map answer)

def recording (change : Change Coverage) : Database × Except Failure Answer :=
  (change.database, change.result.outcome.map .persisted)

def Call.perform (database : Database) : Call → Database × Except Failure Answer
  | .validate request on => readOnly database (Gate.validate database request on) fun _ => .passed
  | .create request on => recording (createCoverage database request on)
  | .insert request => recording (insertCoverage database request)
  | .checkContract contract =>
      readOnly database (Gate.checkContract database contract) fun _ => .passed
  | .checkCoverageType coverageType =>
      readOnly database (Gate.checkCoverageType database coverageType) fun _ => .passed
  | .checkProduct contract coverageType =>
      readOnly database (Gate.checkProduct database contract coverageType) fun _ => .passed
  | .checkAmount coverageType amount =>
      readOnly database (Gate.checkAmount database coverageType amount) fun _ => .passed
  | .checkPrice coverageType amount on =>
      readOnly database (Gate.checkPrice database coverageType amount on) fun _ => .passed
  | .runLookups request on =>
      readOnly database (Gate.runLookups database request on) fun _ => .passed
  | .checkRules request => readOnly database (Gate.checkRules database request) fun _ => .passed
  | .explainRules request => readOnly database (Gate.explainRules database request) .explained
  | .probe name => readOnly database (Gate.probe database name) .probed

def Call.request? : Call → Option Request
  | .create request _ => some request
  | .insert request => some request
  | _ => none

structure Step where
  before : Database
  call : Call
  answer : Except Failure Answer
  after : Database

def Step.ofCall (database : Database) (call : Call) : Step :=
  ⟨database, call, (call.perform database).2, (call.perform database).1⟩

def Step.persisted? (step : Step) : Option Request :=
  match step.answer with
  | .ok (.persisted _) => step.call.request?
  | _ => none

def run (database : Database) : List Call → List Step
  | [] => []
  | call :: rest =>
      let step := Step.ofCall database call
      step :: run step.after rest

def lastDatabase (database : Database) : List Step → Database
  | [] => database
  | step :: rest => lastDatabase step.after rest

def ledgerName : String := "Deckung"

def Records (database : Database) (request : Request) (row : Row) : Prop :=
  ∃ table, database.table? ledgerName = some table ∧ table.Holds (coverageRow request) row

theorem coverageRow_distinct (request : Request) :
    (coverageRow request).Pairwise fun first second => sameName first.1 second.1 = false := by
  have first : sameName "Vertrag_FK" "Deckungsart_FK" = false := by decide
  have second : sameName "Vertrag_FK" "Deckungsbetrag" = false := by decide
  have third : sameName "Deckungsart_FK" "Deckungsbetrag" = false := by decide
  simp [coverageRow, first, second, third]

theorem coverageRow_given (request : Request) :
    ∀ assignment ∈ coverageRow request, assignment.2 ≠ .null := by
  simp [coverageRow]

/-- An insertion of a coverage fails and changes nothing, or adds the one row that records the
request. -/
theorem insertCoverage_cases (database : Database) (request : Request) :
    (∃ failure, (insertCoverage database request).result.outcome = .error failure ∧
        (insertCoverage database request).database = database) ∨
      ((insertCoverage database request).result.outcome = .ok (Coverage.ofRequest request) ∧
        ∃ row, Records database request row ∧
          Database.Grown ledgerName database (insertCoverage database request).database [row]) := by
  cases inserted : database.insert "Deckung" (coverageRow request) with
  | error fault =>
      have whole : insertCoverage database request =
          ⟨database, answered .insertingCoverage (.error fault)⟩ := by
        simp [insertCoverage, inserted]
      rw [whole]
      exact Or.inl ⟨_, rfl, rfl⟩
  | ok result =>
      obtain ⟨changed, count⟩ := result
      have whole : insertCoverage database request = ⟨changed, insertedRows request count⟩ := by
        simp [insertCoverage, inserted]
      rw [whole]
      rcases Database.grown_of_insert (coverageRow_distinct request) (coverageRow_given request)
        inserted with ⟨rfl, rfl⟩ | ⟨rfl, table, row, found, holds, grown⟩
      · exact Or.inl ⟨_, rfl, rfl⟩
      · exact Or.inr ⟨rfl, row, ⟨table, found, holds⟩, grown⟩

theorem createCoverage_cases (database : Database) (request : Request) (on : Date) :
    (∃ failure, (createCoverage database request on).result.outcome = .error failure ∧
        (createCoverage database request on).database = database) ∨
      ((runChecks database request on).outcome = .ok () ∧
        (createCoverage database request on).result.outcome = .ok (Coverage.ofRequest request) ∧
        ∃ row, Records database request row ∧
          Database.Grown ledgerName database (createCoverage database request on).database
            [row]) := by
  cases checked : (runChecks database request on).outcome with
  | error failure =>
      obtain ⟨same, failed⟩ := createCoverage_of_failure checked
      exact Or.inl ⟨failure, failed, same⟩
  | ok value =>
      obtain ⟨databaseSame, outcomeSame⟩ := createCoverage_of_checks checked
      rw [databaseSame, outcomeSame]
      rcases insertCoverage_cases database request with failed | persisted
      · exact Or.inl failed
      · exact Or.inr ⟨rfl, persisted⟩

theorem step_grows_of_readOnly {database : Database} {call : Call} {α : Type} {check : Check α}
    {answer : α → Answer} (performs : call.perform database = readOnly database check answer)
    (asked : call.request? = none) :
    ∃ added, List.Forall₂ (Records database) (Step.ofCall database call).persisted?.toList added ∧
      Database.Grown ledgerName database (Step.ofCall database call).after added := by
  have nothing : (Step.ofCall database call).persisted? = none := by
    unfold Step.persisted?
    split
    · exact asked
    · rfl
  refine ⟨[], ?_, ?_⟩
  · rw [nothing]
    exact List.Forall₂.nil
  · simp only [Step.ofCall, performs, readOnly]
    exact Database.Grown.refl ledgerName database

theorem step_grows_of_recording {database : Database} {call : Call} {change : Change Coverage}
    {request : Request} {coverage : Coverage} (performs : call.perform database = recording change)
    (asked : call.request? = some request)
    (changes : (∃ failure, change.result.outcome = .error failure ∧ change.database = database) ∨
      (change.result.outcome = .ok coverage ∧ ∃ row, Records database request row ∧
        Database.Grown ledgerName database change.database [row])) :
    ∃ added, List.Forall₂ (Records database) (Step.ofCall database call).persisted?.toList added ∧
      Database.Grown ledgerName database (Step.ofCall database call).after added := by
  rcases changes with ⟨failure, failed, same⟩ | ⟨persisted, row, records, grown⟩
  · refine ⟨[], ?_, ?_⟩
    · simp [Step.persisted?, Step.ofCall, performs, recording, failed, Except.map]
    · simp only [Step.ofCall, performs, recording, same]
      exact Database.Grown.refl ledgerName database
  · refine ⟨[row], ?_, ?_⟩
    · simpa [Step.persisted?, Step.ofCall, performs, recording, persisted, Except.map, asked]
        using records
    · simpa only [Step.ofCall, performs, recording] using grown

/-- One step adds the row of the request that it persisted, if it persisted one. -/
theorem step_grows (database : Database) (call : Call) :
    ∃ added, List.Forall₂ (Records database) (Step.ofCall database call).persisted?.toList added ∧
      Database.Grown ledgerName database (Step.ofCall database call).after added := by
  cases call with
  | create request on =>
      apply step_grows_of_recording rfl rfl
      rcases createCoverage_cases database request on with failed | ⟨_, persisted⟩
      · exact Or.inl failed
      · exact Or.inr persisted
  | insert request => exact step_grows_of_recording rfl rfl (insertCoverage_cases database request)
  | validate _ _ => exact step_grows_of_readOnly rfl rfl
  | checkContract _ => exact step_grows_of_readOnly rfl rfl
  | checkCoverageType _ => exact step_grows_of_readOnly rfl rfl
  | checkProduct _ _ => exact step_grows_of_readOnly rfl rfl
  | checkAmount _ _ => exact step_grows_of_readOnly rfl rfl
  | checkPrice _ _ _ => exact step_grows_of_readOnly rfl rfl
  | runLookups _ _ => exact step_grows_of_readOnly rfl rfl
  | checkRules _ => exact step_grows_of_readOnly rfl rfl
  | explainRules _ => exact step_grows_of_readOnly rfl rfl
  | probe _ => exact step_grows_of_readOnly rfl rfl

theorem Records.of_grown {first later : Database} {added : List Row}
    (grown : Database.Grown ledgerName first later added) {request : Request} {row : Row}
    (records : Records later request row) : Records first request row := by
  obtain ⟨changed, found, holds⟩ := records
  cases before : first.table? ledgerName with
  | none =>
      -- Without the table nothing was added, so the later database is the first one.
      have same := grown.unchanged (grown.absent before)
      rw [same, before] at found
      simp at found
  | some table =>
      obtain ⟨other, otherFound, same, _⟩ := grown.rows table before
      rw [found] at otherFound
      cases otherFound
      exact ⟨table, before, (same.holds_iff (coverageRow request) row).mp holds⟩

theorem run_grows (database : Database) (calls : List Call) :
    ∃ added,
      List.Forall₂ (Records database) ((run database calls).filterMap Step.persisted?) added ∧
        Database.Grown ledgerName database (lastDatabase database (run database calls)) added := by
  induction calls generalizing database with
  | nil => exact ⟨[], List.Forall₂.nil, Database.Grown.refl ledgerName database⟩
  | cons call rest ih =>
      obtain ⟨first, firstRecords, firstGrown⟩ := step_grows database call
      obtain ⟨others, otherRecords, otherGrown⟩ := ih (Step.ofCall database call).after
      -- Rows of later steps are recorded in the columns that the table had at the start.
      have fromStart := otherRecords.imp fun _ _ => Records.of_grown firstGrown
      refine ⟨first ++ others, ?_, firstGrown.trans otherGrown⟩
      have split : (run database (call :: rest)).filterMap Step.persisted? =
          (Step.ofCall database call).persisted?.toList ++
            (run (Step.ofCall database call).after rest).filterMap Step.persisted? := by
        simp only [run, List.filterMap_cons]
        cases (Step.ofCall database call).persisted? <;> rfl
      rw [split]
      exact List.rel_append firstRecords fromStart

theorem mem_run {database : Database} {calls : List Call} {step : Step}
    (member : step ∈ run database calls) : step = Step.ofCall step.before step.call := by
  induction calls generalizing database with
  | nil => simp [run] at member
  | cons call rest ih =>
      rcases List.mem_cons.mp member with rfl | later
      · rfl
      · exact ih later

theorem step_unchanged_of_not_persisted (database : Database) (call : Call)
    (nothing : (Step.ofCall database call).persisted? = none) :
    (Step.ofCall database call).after = database := by
  obtain ⟨added, records, grown⟩ := step_grows database call
  rw [nothing] at records
  cases records
  exact grown.unchanged rfl

/-- The ledger after any run. Its rows are those it had and one for each persisted request, which
holds the request's numbers and its amount as the columns keep them; the other relations are as
they were. A call that persists nothing, a failed one above all, leaves the database as it was, and
no call opens or closes a transaction or changes what a rollback restores. -/
theorem run_records_persisted (database : Database) (calls : List Call) :
    (∃ added,
      List.Forall₂ (Records database) ((run database calls).filterMap Step.persisted?) added ∧
        Database.Grown ledgerName database (lastDatabase database (run database calls)) added) ∧
      ∀ step ∈ run database calls,
        (step.persisted? = none → step.after = step.before) ∧
        (∀ failure, step.answer = .error failure → step.after = step.before) ∧
        step.after.saved = step.before.saved ∧
        (step.before.saved.isSome → step.after.rollback = step.before.rollback) := by
  refine ⟨run_grows database calls, ?_⟩
  intro step member
  have whole := mem_run member
  have still : step.persisted? = none → step.after = step.before := by
    rw [whole]
    exact step_unchanged_of_not_persisted step.before step.call
  obtain ⟨added, _, grown⟩ := step_grows step.before step.call
  rw [← whole] at grown
  refine ⟨still, ?_, grown.saved_eq, ?_⟩
  · intro failure failed
    apply still
    simp [Step.persisted?, failed]
  · intro opened
    obtain ⟨relations, saved⟩ := Option.isSome_iff_exists.mp opened
    simp [Database.rollback, grown.saved_eq, grown.access_eq, saved]

end Underwriting.Gate
