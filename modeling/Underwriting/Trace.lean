import Underwriting.Text.Digits

/-!
Traces of computations. A computation has an outcome and a list of entries in the order in which
they were made: events with their fields, and the ends of the spans that enclose them. What ran
before a failure stays in the trace, and nothing runs behind it.
-/

namespace Underwriting

inductive Level
  | error
  | warn
  | info
  | debug
  | trace
deriving DecidableEq

inductive FieldValue
  | shown (text : String)
  | quoted (text : String)
  | number (value : Int)
  | flag (value : Bool)
deriving DecidableEq

structure Field where
  name : String
  value : FieldValue
deriving DecidableEq

def Field.shown {α : Type} [ToString α] (name : String) (value : α) : Field :=
  ⟨name, .shown (toString value)⟩

structure Event where
  level : Level
  topic : String
  message : String
  fields : List Field
deriving DecidableEq

structure Span where
  topic : String
  name : String
  fields : List Field
deriving DecidableEq

inductive Entry
  | event (event : Event) (scopes : List Span)
  | closed (span : Span) (scopes : List Span)
deriving DecidableEq

def Entry.inside (span : Span) : Entry → Entry
  | .event happened scopes => .event happened (span :: scopes)
  | .closed ended scopes => .closed ended (span :: scopes)

def Entry.level? : Entry → Option Level
  | .event happened _ => some happened.level
  | .closed _ _ => none

def countLevel (level : Level) (entries : List Entry) : Nat :=
  entries.countP fun entry => entry.level? == some level

structure Traced (ε α : Type) where
  outcome : Except ε α
  entries : List Entry

namespace Traced

variable {ε α β : Type}

protected def pure (value : α) : Traced ε α := ⟨.ok value, []⟩

protected def bind (first : Traced ε α) (next : α → Traced ε β) : Traced ε β :=
  match first.outcome with
  | .error fault => ⟨.error fault, first.entries⟩
  | .ok value => ⟨(next value).outcome, first.entries ++ (next value).entries⟩

instance : Monad (Traced ε) where
  pure := Traced.pure
  bind := Traced.bind

def fail (fault : ε) : Traced ε α := ⟨.error fault, []⟩

def emit (event : Event) : Traced ε Unit := ⟨.ok (), [.event event []]⟩

def within (span : Span) (body : Traced ε α) : Traced ε α :=
  ⟨body.outcome, body.entries.map (Entry.inside span) ++ [.closed span []]⟩

@[simp] theorem outcome_pure (value : α) : (pure value : Traced ε α).outcome = .ok value := rfl

@[simp] theorem entries_pure (value : α) : (pure value : Traced ε α).entries = [] := rfl

@[simp] theorem outcome_fail (fault : ε) : (fail fault : Traced ε α).outcome = .error fault := rfl

@[simp] theorem entries_fail (fault : ε) : (fail fault : Traced ε α).entries = [] := rfl

@[simp] theorem outcome_emit (event : Event) :
    (emit event : Traced ε Unit).outcome = .ok () := rfl

@[simp] theorem entries_emit (event : Event) :
    (emit event : Traced ε Unit).entries = [.event event []] := rfl

@[simp] theorem outcome_within (span : Span) (body : Traced ε α) :
    (within span body).outcome = body.outcome := rfl

theorem bind_of_ok {first : Traced ε α} {value : α} (ok : first.outcome = .ok value)
    (next : α → Traced ε β) :
    first >>= next = ⟨(next value).outcome, first.entries ++ (next value).entries⟩ := by
  change Traced.bind first next = _
  simp [Traced.bind, ok]

theorem bind_of_error {first : Traced ε α} {fault : ε} (failed : first.outcome = .error fault)
    (next : α → Traced ε β) : first >>= next = ⟨.error fault, first.entries⟩ := by
  change Traced.bind first next = _
  simp [Traced.bind, failed]

theorem outcome_bind (first : Traced ε α) (next : α → Traced ε β) :
    (first >>= next).outcome = first.outcome.bind fun value => (next value).outcome := by
  cases step : first.outcome with
  | error fault => simp [bind_of_error step, Except.bind]
  | ok value => simp [bind_of_ok step, Except.bind]

instance : LawfulMonad (Traced ε) := LawfulMonad.mk' (Traced ε)
  (fun step => by
    change Traced.bind step Traced.pure = step
    obtain ⟨outcome, entries⟩ := step
    cases outcome <;> simp [Traced.bind, Traced.pure])
  (fun value next => by
    change Traced.bind (Traced.pure value) next = next value
    simp [Traced.bind, Traced.pure])
  (fun step next last => by
    change Traced.bind (Traced.bind step next) last =
      Traced.bind step fun value => Traced.bind (next value) last
    obtain ⟨outcome, entries⟩ := step
    cases outcome with
    | error fault => rfl
    | ok value => cases second : (next value).outcome <;> simp [Traced.bind, second])

end Traced

theorem countLevel_singleton (level : Level) (event : Event) (scopes : List Span) :
    countLevel level [.event event scopes] = if event.level = level then 1 else 0 := by
  by_cases same : event.level = level
  · simp [countLevel, Entry.level?, same]
  · simp [countLevel, Entry.level?, same]

theorem countLevel_append (level : Level) (front back : List Entry) :
    countLevel level (front ++ back) = countLevel level front + countLevel level back :=
  List.countP_append

@[simp] theorem countLevel_map_inside (level : Level) (span : Span) (entries : List Entry) :
    countLevel level (entries.map (Entry.inside span)) = countLevel level entries := by
  unfold countLevel
  rw [List.countP_map]
  have same : (fun entry : Entry => entry.level? == some level) ∘ Entry.inside span =
      fun entry => entry.level? == some level := by
    funext entry
    cases entry <;> rfl
  rw [same]

end Underwriting
