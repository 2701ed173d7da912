import Tagline.Filter
import Tagline.Template.Error
import Tagline.Yaml.Error

/-!
# Failures

What can go wrong between a host and the filters. A failure inside a template is
reported to the template engine as an invalid operation with the words of the failure
(`Failure.toError`), and a failure of the engine as itself.
-/

namespace Tagline

/-- What can go wrong between a host and the filters. -/
inductive Failure where
  /-- No filter has the name. -/
  | unknownFilter (e : UnknownFilter)
  /-- The filter is not in the table. -/
  | notRegistered (f : Filter)
  /-- A text gives no settings. -/
  | invalidSettings (e : Yaml.Error)
  /-- A text gives no data. -/
  | invalidData
  /-- A template cannot be rendered. -/
  | template (e : Template.Error)
  deriving DecidableEq, Repr

namespace Failure

/-- What went wrong, in words. -/
def summary : Failure → Text
  | .unknownFilter e => e.message
  | .notRegistered f => "filter '".toList ++ f.name ++ "' is not registered".toList
  | .invalidSettings _ => "invalid render configuration".toList
  | .invalidData => "invalid evaluation context".toList
  | .template _ => "template error".toList

/-- The cause of a failure, in words, if it lies in a text that was to be read. -/
def cause? : Failure → Option Text
  | .unknownFilter _ => none
  | .notRegistered _ => none
  | .invalidSettings e => some e.message
  | .invalidData => some "the text is not JSON".toList
  | .template e => some e.message

/-- What went wrong and why, in words. -/
def message (x : Failure) : Text :=
  match x.cause? with
  | none => x.summary
  | some c => x.summary ++ ": ".toList ++ c

/-- A failure as the template engine reports it. -/
def toError : Failure → Template.Error
  | .template e => e
  | x => { fault := .invalidOperation, detail := some x.message }

end Failure

/-- A computation that may fail and may write log records. The records that were written
before a failure are kept. -/
abbrev Attempt := ExceptT Failure Logged

namespace Attempt

variable {α β : Type}

/-- The outcome, without the records. -/
def outcome (x : Attempt α) : Except Failure α := x.run.value

/-- The records. -/
def log (x : Attempt α) : Log := x.run.log

/-- Goes on with the outcome of a computation that writes no records. -/
def lift (x : Except Failure α) : Attempt α := ExceptT.mk (pure x)

/-- Goes on with a value and takes over its records. -/
def ofLogged (x : Logged α) : Attempt α := ExceptT.lift x

/-- A computation of the template engine, with the reason why it fails as a failure. -/
def ofRun (x : Template.Run α) : Attempt α := ExceptT.mk (Except.mapError .template <$> x.run)

/-- A computation as part of one of the template engine. -/
def toRun (x : Attempt α) : Template.Run α := ExceptT.mk (Except.mapError Failure.toError <$> x.run)

/-! ### What a sequence of computations gives -/

@[simp] theorem outcome_pure (a : α) : outcome (pure a : Attempt α) = .ok a := rfl

@[simp] theorem outcome_lift (x : Except Failure α) : outcome (lift x) = x := rfl

@[simp] theorem outcome_ofLogged (x : Logged α) : outcome (ofLogged x) = .ok x.value := rfl

@[simp] theorem outcome_ofRun (x : Template.Run α) :
    outcome (ofRun x) = x.outcome.mapError .template := rfl

@[simp] theorem outcome_toRun (x : Attempt α) :
    x.toRun.outcome = x.outcome.mapError Failure.toError := rfl

/-- The outcome of a sequence comes from the outcomes of its parts. -/
@[simp] theorem outcome_bind (x : Attempt α) (f : α → Attempt β) :
    outcome (x >>= f) = x.outcome >>= fun a => (f a).outcome := by
  change (ExceptT.bindCont f x.run.value).value = _
  cases h : x.run.value <;> simp [outcome, h, ExceptT.bindCont] <;> rfl

end Attempt

end Tagline
