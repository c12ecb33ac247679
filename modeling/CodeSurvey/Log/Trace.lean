import CodeSurvey.Log.Record

set_option autoImplicit false

namespace CodeSurvey.Log

/-- A computation that logs and may fail: its records in order, and the outcome. Records made before
a failure are kept. -/
structure Trace (ε α : Type) where
  records : List Record
  outcome : Except ε α

namespace Trace

def ofExcept {ε α : Type} (outcome : Except ε α) : Trace ε α :=
  ⟨[], outcome⟩

def bind {ε α β : Type} (first : Trace ε α) (next : α → Trace ε β) : Trace ε β :=
  match first.outcome with
  | .error fault => ⟨first.records, .error fault⟩
  | .ok value => ⟨first.records ++ (next value).records, (next value).outcome⟩

instance {ε : Type} : Monad (Trace ε) where
  pure value := ofExcept (.ok value)
  bind := bind

def note {ε : Type} (level : Level) (logger message : String) : Trace ε Unit :=
  ⟨[⟨level, logger, message⟩], .ok ()⟩

def fail {ε α : Type} (fault : ε) : Trace ε α :=
  ofExcept (.error fault)

def mapFault {ε δ α : Type} (f : ε → δ) (t : Trace ε α) : Trace δ α :=
  ⟨t.records, t.outcome.mapError f⟩

/-- A phase: its start, what it logs itself, and its end or its failure. -/
def phase {ε α : Type} (message : ε → String) (logger name : String) (level : Level)
    (body : Trace ε α) : Trace ε α :=
  let last : Record :=
    match body.outcome with
    | .ok _ => ⟨level, logger, name ++ " completed"⟩
    | .error fault => ⟨.error, logger, name ++ " failed: " ++ message fault⟩
  ⟨⟨level, logger, name ++ " started"⟩ :: body.records ++ [last], body.outcome⟩

@[simp] theorem outcome_pure {ε α : Type} (value : α) :
    (pure value : Trace ε α).outcome = .ok value :=
  rfl

@[simp] theorem outcome_bind {ε α β : Type} (first : Trace ε α) (next : α → Trace ε β) :
    (first >>= next).outcome = first.outcome.bind fun value => (next value).outcome := by
  change (bind first next).outcome = _
  unfold bind
  cases first.outcome <;> rfl

theorem outcome_bind_of_ok {ε α β : Type} {first : Trace ε α} {next : α → Trace ε β} {value : α}
    (done : first.outcome = .ok value) : (first >>= next).outcome = (next value).outcome := by
  rw [outcome_bind, done]
  rfl

theorem outcome_bind_of_error {ε α β : Type} {first : Trace ε α} {next : α → Trace ε β} {fault : ε}
    (failed : first.outcome = .error fault) : (first >>= next).outcome = .error fault := by
  rw [outcome_bind, failed]
  rfl

theorem bind_eq_ok {ε α β : Type} {first : Trace ε α} {next : α → Trace ε β} {result : β} :
    (first >>= next).outcome = .ok result ↔
      ∃ value, first.outcome = .ok value ∧ (next value).outcome = .ok result := by
  rw [outcome_bind]
  cases first.outcome <;> simp [Except.bind]

@[simp] theorem outcome_phase {ε α : Type} (message : ε → String) (logger name : String)
    (level : Level) (body : Trace ε α) :
    (phase message logger name level body).outcome = body.outcome :=
  rfl

@[simp] theorem outcome_note {ε : Type} (level : Level) (logger message : String) :
    (note level logger message : Trace ε Unit).outcome = .ok () :=
  rfl

end Trace

end CodeSurvey.Log
