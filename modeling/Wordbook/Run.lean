import Wordbook.Event

/-! Computations that report events and may fail. What was reported before a failure stays reported, and
what comes of a computation does not depend on its reports: the result of a sequence is the sequence of
the results. -/
namespace Wordbook

/-- The events of a computation, the first one first, and its result. -/
structure Run (α : Type) where
  log : List Event
  result : Except Failure α

namespace Run

instance : Monad Run where
  pure value := { log := [], result := .ok value }
  bind run next :=
    match run.result with
    | .error failure => { log := run.log, result := .error failure }
    | .ok value => { log := run.log ++ (next value).log, result := (next value).result }

/-- Reports events. -/
def report (events : List Event) : Run Unit where
  log := events
  result := .ok ()

/-- A result that comes without a report. -/
def ofExcept {α : Type} (result : Except Failure α) : Run α where
  log := []
  result := result

variable {α β : Type}

@[simp] theorem result_pure (value : α) : (pure value : Run α).result = .ok value := rfl

@[simp] theorem result_report (events : List Event) : (report events).result = .ok () := rfl

@[simp] theorem result_ofExcept (result : Except Failure α) : (ofExcept result).result = result := rfl

/-- The result of a sequence does not depend on what was reported. -/
@[simp] theorem result_bind (run : Run α) (next : α → Run β) :
    (run >>= next).result = run.result >>= fun value => (next value).result := by
  simp only [bind]
  cases run.result <;> rfl

end Run

end Wordbook
