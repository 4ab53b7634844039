import Underwriting.Proofs.Gate.Outcome

/-!
What the gate logs as warnings and errors. A rejection is logged once as a warning and a failure of the
store once as an error, where it arises; a failure by the text of a rule is not logged. Besides there
is a warning for each evaluated rule whose age condition cannot be read. Each step adds to what was
logged in front of it, so that the events of a whole call can be counted.
-/

namespace Underwriting.Gate

open Store

def Failure.loggedAt? : Failure → Option Level
  | .dataAccess _ (.ruleText _) => none
  | .dataAccess _ _ => some .error
  | _ => some .warn

def failureEvents {α : Type} (level : Level) : Except Failure α → Nat
  | .ok _ => 0
  | .error failure => if failure.loggedAt? = some level then 1 else 0

/-- A check logs its own failure, and this many other events of a level. -/
def Logs {α : Type} (level : Level) (others : Nat) (check : Check α) : Prop :=
  countLevel level check.entries = others + failureEvents level check.outcome

section Steps

variable {α β : Type} {level : Level} {others : Nat} {check : Check α} {next : α → Check β}

theorem logs_pure (level : Level) (value : α) : Logs level 0 (pure value : Check α) := rfl

theorem logs_emit {event : Event} (apart : event.level ≠ level) :
    Logs level 0 (.emit event : Check Unit) := by
  unfold Logs
  rw [Traced.entries_emit, countLevel_singleton, if_neg apart]
  rfl

theorem logs_reported {event : Event} {failure : Failure}
    (reported : failure.loggedAt? = some event.level) (level : Level) :
    Logs level 0 (do .emit event; .fail failure : Check α) := by
  change countLevel level [.event event []] = 0 + failureEvents level (.error failure)
  rw [countLevel_singleton, failureEvents, reported, Nat.zero_add]
  simp only [Option.some.injEq]

theorem Logs.bind_of_ok {more : Nat} {value : α} (first : Logs level others check)
    (ok : check.outcome = .ok value) (rest : Logs level more (next value)) :
    Logs level (others + more) (check >>= next) := by
  unfold Logs at *
  rw [ok] at first
  rw [Traced.bind_of_ok ok]
  change countLevel level (check.entries ++ (next value).entries) =
    others + more + failureEvents level (next value).outcome
  rw [countLevel_append, first, rest, failureEvents]
  omega

theorem Logs.of_failed {failure : Failure} (logs : Logs level others check)
    (failed : check.outcome = .error failure) :
    Logs level others (⟨.error failure, check.entries⟩ : Check β) := by
  unfold Logs at *
  rw [failed] at logs
  exact logs

theorem Logs.bind_of_error {failure : Failure} (first : Logs level others check)
    (failed : check.outcome = .error failure) : Logs level others (check >>= next) := by
  rw [Traced.bind_of_error failed]
  exact first.of_failed failed

theorem Logs.bind (first : Logs level others check)
    (rest : ∀ value, check.outcome = .ok value → Logs level 0 (next value)) :
    Logs level others (check >>= next) := by
  cases ends : check.outcome with
  | ok value => exact first.bind_of_ok ends (rest value ends)
  | error failure => exact first.bind_of_error ends

theorem Logs.after_emit {event : Event} {step : Check β} (rest : Logs level others step)
    (apart : event.level ≠ level) : Logs level others (do .emit event; step : Check β) := by
  have both : Logs level (0 + others) (do .emit event; step : Check β) :=
    (logs_emit apart).bind_of_ok (Traced.outcome_emit event) rest
  rwa [Nat.zero_add] at both

theorem Logs.within (span : Span) (step : Logs level others check) :
    Logs level others (.within span check) := by
  unfold Logs at *
  rw [Traced.outcome_within, ← step]
  change countLevel level (check.entries.map (Entry.inside span) ++ [.closed span []]) = _
  rw [countLevel_append, countLevel_map_inside]
  rfl

theorem logs_answered (level : Level) (operation : Operation) (answer : Except Fault α) :
    Logs level 0 (answered operation answer) := by
  cases answer with
  | ok value => exact logs_pure level value
  | error fault => exact logs_reported rfl level

end Steps

def IsGrave (level : Level) : Prop := level = .warn ∨ level = .error

theorem IsGrave.ne_debug {level : Level} (grave : IsGrave level) : Level.debug ≠ level := by
  rcases grave with rfl | rfl <;> decide

theorem IsGrave.ne_info {level : Level} (grave : IsGrave level) : Level.info ≠ level := by
  rcases grave with rfl | rfl <;> decide

section Lookups

variable {level : Level} (grave : IsGrave level) (database : Database)
include grave

theorem logs_require {operation : Operation} {asking refusing : Event} {failure : Failure}
    (asked : asking.level = .debug) (refused : failure.loggedAt? = some refusing.level)
    (answer : Except Fault Bool) :
    Logs level 0 (require operation asking answer refusing failure) := by
  refine Logs.after_emit ?_ (asked ▸ grave.ne_debug)
  refine (logs_answered level operation answer).bind fun found _ => ?_
  cases found with
  | true => exact logs_pure level ()
  | false => exact logs_reported refused level

theorem logs_checkContract (contract : ContractId) :
    Logs level 0 (checkContract database contract) := logs_require grave rfl rfl _

theorem logs_checkCoverageType (coverageType : CoverageTypeId) :
    Logs level 0 (checkCoverageType database coverageType) := logs_require grave rfl rfl _

theorem logs_checkProduct (contract : ContractId) (coverageType : CoverageTypeId) :
    Logs level 0 (checkProduct database contract coverageType) := logs_require grave rfl rfl _

theorem logs_checkAmount (coverageType : CoverageTypeId) (amount : Decimal) :
    Logs level 0 (checkAmount database coverageType amount) := logs_require grave rfl rfl _

theorem logs_checkPrice (coverageType : CoverageTypeId) (amount : Decimal) (on : Date) :
    Logs level 0 (checkPrice database coverageType amount on) := logs_require grave rfl rfl _

theorem logs_runLookups (request : Request) (on : Date) :
    Logs level 0 (runLookups database request on) := by
  refine (logs_checkContract grave database request.contract).bind fun _ _ => ?_
  refine (logs_checkCoverageType grave database request.coverageType).bind fun _ _ => ?_
  refine (logs_checkProduct grave database request.contract request.coverageType).bind fun _ _ => ?_
  refine (logs_checkAmount grave database request.coverageType request.amount).bind fun _ _ => ?_
  exact logs_checkPrice grave database request.coverageType request.amount on

end Lookups

end Underwriting.Gate
