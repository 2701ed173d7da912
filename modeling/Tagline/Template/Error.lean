import Tagline.Log

/-!
# Failures of the template language

A template or expression fails for one of a few reasons (`Template.Fault`). A failure
that the host reports carries its words; the language itself has none to add.
-/

namespace Tagline

namespace Template

/-- Why a template or expression fails. -/
inductive Fault where
  /-- The source is not a template or expression. -/
  | syntaxError
  /-- A text in quotes holds an escape that stands for no character. -/
  | badEscape
  | unknownFilter
  | unknownFunction
  | unknownMethod
  | unknownTest
  /-- An undefined value was used where one is needed. -/
  | undefinedError
  /-- An operation does not apply to its operands. -/
  | invalidOperation
  | missingArgument
  | tooManyArguments
  deriving DecidableEq, Repr

/-- The name of a reason. -/
def Fault.name : Fault → Text
  | .syntaxError => "SyntaxError".toList
  | .badEscape => "BadEscape".toList
  | .unknownFilter => "UnknownFilter".toList
  | .unknownFunction => "UnknownFunction".toList
  | .unknownMethod => "UnknownMethod".toList
  | .unknownTest => "UnknownTest".toList
  | .undefinedError => "UndefinedError".toList
  | .invalidOperation => "InvalidOperation".toList
  | .missingArgument => "MissingArgument".toList
  | .tooManyArguments => "TooManyArguments".toList

/-- The reason in words. -/
def Fault.message : Fault → Text
  | .syntaxError => "syntax error".toList
  | .badEscape => "bad string escape".toList
  | .unknownFilter => "unknown filter".toList
  | .unknownFunction => "unknown function".toList
  | .unknownMethod => "unknown method".toList
  | .unknownTest => "unknown test".toList
  | .undefinedError => "undefined value".toList
  | .invalidOperation => "invalid operation".toList
  | .missingArgument => "missing argument".toList
  | .tooManyArguments => "too many arguments".toList

/-- A failure: its reason, and the words of the host if it has any. -/
structure Error where
  fault : Fault
  detail : Option Text := none
  deriving DecidableEq, Repr

/-- A failure in words. -/
def Error.message (e : Error) : Text :=
  match e.detail with
  | none => e.fault.message
  | some detail => e.fault.message ++ ": ".toList ++ detail

/-- A computation that may fail and may write log records. The records that were written
before a failure are kept. -/
abbrev Run := ExceptT Error Logged

namespace Run

variable {α β : Type}

/-- Fails for a reason of the language. -/
def fail (f : Fault) : Run α := throw { fault := f }

/-- Goes on with the outcome of a computation that writes no records. -/
def lift (x : Except Error α) : Run α := ExceptT.mk (pure x)

/-- The outcome, without the records. -/
def outcome (x : Run α) : Except Error α := x.run.value

/-- The records. -/
def log (x : Run α) : Log := x.run.log

/-- Goes on with a value and takes over its records. -/
def ofLogged (x : Logged α) : Run α := ExceptT.lift x

/-! ### What a sequence of computations gives -/

@[simp] theorem outcome_pure (a : α) : outcome (pure a : Run α) = .ok a := rfl

@[simp] theorem outcome_fail (f : Fault) : outcome (fail f : Run α) = .error { fault := f } := rfl

@[simp] theorem outcome_lift (x : Except Error α) : outcome (lift x) = x := rfl

@[simp] theorem outcome_ofLogged (x : Logged α) : outcome (ofLogged x) = .ok x.value := rfl

/-- The outcome of a sequence comes from the outcomes of its parts. -/
@[simp] theorem outcome_bind (x : Run α) (f : α → Run β) :
    outcome (x >>= f) = x.outcome >>= fun a => (f a).outcome := by
  change (ExceptT.bindCont f x.run.value).value = _
  cases h : x.run.value <;> simp [outcome, h, ExceptT.bindCont] <;> rfl

end Run

end Template

end Tagline
