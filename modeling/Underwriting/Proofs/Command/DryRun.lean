import Underwriting.Proofs.Command.Work

/-!
A dry run against the run that it stands for. Both open the same database and make the same checks, so
where a check fails they end alike. Behind checks that pass, the dry run reports that it would add the
coverage, and the other run adds it or fails at the insertion alone. No file changes but by a coverage
that is added.
-/

namespace Underwriting.Command

open Store

def attempted {α : Type} (request : Request) (on : Date) (accepted : α → AddOutcome) :
    Except Gate.Failure α → Except Failure AddResult
  | .ok value => .ok ⟨request, on, accepted value⟩
  | .error cause =>
      if cause.isRejection then .ok ⟨request, on, .rejected cause⟩
      else .error (.gate (some "add coverage") cause)

section Attempts

variable (database : Database) (request : Request) (on : Date)

theorem map_outcomeOf {α : Type} (accepted : α → AddOutcome) (check : Gate.Check α) :
    ((outcomeOf accepted check).outcome.map fun outcome => (⟨request, on, outcome⟩ : AddResult)) =
      attempted request on accepted check.outcome := by
  unfold outcomeOf attempted
  cases check.outcome with
  | ok value => rfl
  | error cause =>
      dsimp only
      split <;> rfl

theorem outcome_addTo_dry (rest : database.saved = none) :
    (addTo database request on true).2.outcome =
      attempted request on (fun _ => .validated) (Gate.validate database request on).outcome := by
  rw [outcome_addTo database request on rest, ← outcome_validate_beginTransaction]
  exact map_outcomeOf request on _ _

theorem outcome_addTo_real (rest : database.saved = none) :
    (addTo database request on false).2.outcome =
      attempted request on .added (Gate.createCoverage database request on).result.outcome := by
  rw [outcome_addTo database request on rest, ← result_createCoverage_beginTransaction]
  exact map_outcomeOf request on _ _

end Attempts

section Runs

variable {files : Files} {settings : Settings} {opened : Opened}

theorem files_runAdd_of_unopened {failure : Failure}
    (fails : (openDatabase files settings).outcome = .error failure) (today : Date)
    (request : Request) (dryRun : Bool) :
    (runAdd files settings today request dryRun).1 = files := by
  simp only [runAdd, fails]

theorem files_runAdd_of_opened (opens : (openDatabase files settings).outcome = .ok opened)
    (today : Date) (request : Request) (dryRun : Bool) :
    (runAdd files settings today request dryRun).1 =
      opened.keep files
        (addTo opened.database request (settings.evaluationDate.getD today) dryRun).1 := by
  simp only [runAdd, opens]

end Runs

section Foretelling

variable {files : Files} {settings : Settings} {opened : Opened} {on : Date}

theorem outcome_runAdd_dry (dated : settings.evaluationDate = some on)
    (opens : (openDatabase files settings).outcome = .ok opened) (today : Date) (request : Request) :
    (runAdd files settings today request true).2.outcome =
      attempted request on (fun _ => .validated)
        (Gate.validate opened.database request on).outcome := by
  have rest := saved_of_openPath (openPath_of_openDatabase opens)
  rw [outcome_runAdd, opens, dated]
  exact outcome_addTo_dry opened.database request on rest

theorem outcome_runAdd_real (dated : settings.evaluationDate = some on)
    (opens : (openDatabase files settings).outcome = .ok opened) (today : Date) (request : Request) :
    (runAdd files settings today request false).2.outcome =
      attempted request on .added
        ((Gate.validate opened.database request on).outcome.bind fun _ =>
          (Gate.insertCoverage opened.database request).result.outcome) := by
  have rest := saved_of_openPath (openPath_of_openDatabase opens)
  rw [outcome_runAdd, opens, dated, ← Gate.outcome_createCoverage]
  exact outcome_addTo_real opened.database request on rest

/-- Adding in a transaction changes no file, or the coverage was added. -/
theorem files_runAdd_cases (dated : settings.evaluationDate = some on) (today : Date)
    (request : Request) (dryRun : Bool) :
    (runAdd files settings today request dryRun).1 = files ∨
      dryRun = false ∧ (runAdd files settings today request dryRun).2.outcome =
        .ok ⟨request, on, .added (.ofRequest request)⟩ := by
  cases opening : (openDatabase files settings).outcome with
  | error failure => exact Or.inl (files_runAdd_of_unopened opening today request dryRun)
  | ok opened =>
      have rest := saved_of_openPath (openPath_of_openDatabase opening)
      rw [files_runAdd_of_opened opening, dated]
      rcases addTo_cases opened.database request on rest dryRun with
        ⟨same, _⟩ | ⟨rfl, accepted, _⟩
      · refine Or.inl ?_
        rw [Option.getD_some, same]
        exact keep_of_unchanged files opened
      · refine Or.inr ⟨rfl, ?_⟩
        rw [outcome_runAdd_real dated opening, ← Gate.outcome_createCoverage, accepted]
        rfl

end Foretelling

structure Foretells (files : Files) (settings : Settings) (on : Date) (request : Request)
    (dry real : Files × Step AddResult) : Prop where
  unopened : ∀ failure, (openDatabase files settings).outcome = .error failure →
    dry.2.outcome = .error failure ∧ real.2.outcome = .error failure
  rejected : ∀ opened cause, (openDatabase files settings).outcome = .ok opened →
    (Gate.validate opened.database request on).outcome = .error cause →
    cause.isRejection = true →
    dry.2.outcome = .ok ⟨request, on, .rejected cause⟩ ∧
      real.2.outcome = .ok ⟨request, on, .rejected cause⟩
  failed : ∀ opened cause, (openDatabase files settings).outcome = .ok opened →
    (Gate.validate opened.database request on).outcome = .error cause →
    cause.isRejection = false →
    dry.2.outcome = .error (.gate (some "add coverage") cause) ∧
      real.2.outcome = .error (.gate (some "add coverage") cause)
  passed : ∀ opened, (openDatabase files settings).outcome = .ok opened →
    (Gate.validate opened.database request on).outcome = .ok () →
    dry.2.outcome = .ok ⟨request, on, .validated⟩
  validated : ∀ result, dry.2.outcome = .ok result → result.outcome = .validated →
    real.2.outcome = .ok ⟨request, on, .added (.ofRequest request)⟩ ∨
      ∃ cause, real.2.outcome =
        .error (.gate (some "add coverage") (.dataAccess .insertingCoverage cause))
  unchangedByDry : dry.1 = files
  unchangedUnlessAdded :
    (∀ result coverage, real.2.outcome = .ok result → result.outcome ≠ .added coverage) →
    real.1 = files

theorem validated_of_dry {files : Files} {settings : Settings} {on : Date}
    (dated : settings.evaluationDate = some on) {today : Date} {request : Request}
    {result : AddResult}
    (ends : (runAdd files settings today request true).2.outcome = .ok result)
    (validated : result.outcome = .validated) :
    ∃ opened, (openDatabase files settings).outcome = .ok opened ∧
      (Gate.validate opened.database request on).outcome = .ok () := by
  cases opening : (openDatabase files settings).outcome with
  | error failure =>
      rw [outcome_runAdd, opening] at ends
      cases ends
  | ok opened =>
      refine ⟨opened, rfl, ?_⟩
      rw [outcome_runAdd_dry dated opening] at ends
      cases checked : (Gate.validate opened.database request on).outcome with
      | ok value => rfl
      | error cause =>
          cases rejected : cause.isRejection with
          | true =>
              simp only [checked, attempted, rejected, if_true, Except.ok.injEq] at ends
              simp [← ends] at validated
          | false => simp [checked, attempted, rejected] at ends

theorem foretells_of_dated {files : Files} {settings : Settings} {on : Date}
    (dated : settings.evaluationDate = some on) (request : Request) (today later : Date) :
    Foretells files settings on request (runAdd files settings today request true)
      (runAdd files settings later request false) where
  unopened := by
    intro failure fails
    rw [outcome_runAdd, outcome_runAdd, fails]
    exact ⟨rfl, rfl⟩
  rejected := by
    intro opened cause opens checked rejected
    rw [outcome_runAdd_dry dated opens, outcome_runAdd_real dated opens, checked]
    simp [attempted, rejected, Except.bind]
  failed := by
    intro opened cause opens checked rejected
    rw [outcome_runAdd_dry dated opens, outcome_runAdd_real dated opens, checked]
    simp [attempted, rejected, Except.bind]
  passed := by
    intro opened opens checked
    rw [outcome_runAdd_dry dated opens, checked]
    rfl
  validated := by
    intro result ends validated
    obtain ⟨opened, opens, checked⟩ := validated_of_dry dated ends validated
    rw [outcome_runAdd_real dated opens, checked]
    rcases Gate.outcome_insertCoverage_cases opened.database request with inserted | ⟨cause, failed⟩
    · exact Or.inl (by simp [inserted, attempted, Except.bind])
    · exact Or.inr ⟨cause, by simp [failed, attempted, Except.bind, Gate.Failure.isRejection]⟩
  unchangedByDry := by
    rcases files_runAdd_cases dated today request true with same | ⟨real, _⟩
    · exact same
    · cases real
  unchangedUnlessAdded := by
    intro notAdded
    rcases files_runAdd_cases dated later request false with same | ⟨_, added⟩
    · exact same
    · exact absurd rfl (notAdded _ _ added)

/-- A dry run foretells the run that it stands for, from the same files and with the same fixed date,
whatever day it is. Where the database is not opened or a check fails, both end alike. Where the dry
run validates the request, the other adds the coverage or fails while inserting it. The dry run leaves
all files as they are once the database is open, the other one does unless it adds the coverage, and
opening a database leaves every file that is there as it was. -/
theorem dry_run_foretells_run (files : Files) (settings : Settings) (on : Date) (request : Request)
    (today later : Date) :
    let dated : Settings := { settings with evaluationDate := some on }
    let there := filesOnceOpen files settings.database
    Foretells there dated on request (runAdd there dated today request true)
        (runAdd there dated later request false) ∧
      ∀ name content, files.find? name = some content → there.find? name = some content := by
  intro dated there
  refine ⟨foretells_of_dated rfl request today later, ?_⟩
  intro name content held
  exact find?_filesOnceOpen held settings.database

end Underwriting.Command
