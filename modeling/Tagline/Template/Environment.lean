import Tagline.Template.Error
import Tagline.Template.Value

/-!
# Environments

A template is rendered in an environment, which says what the names of filters and
functions stand for, whether undefined values are errors and whether values are written
escaped. Binding a name replaces what it stood for and leaves all other names alone
(`Environment.filters_bindFilter`, `Environment.functions_bindFunction`).

The functions in this module turn the values of a call into what a filter or function
expects of its arguments. Where undefined values are errors, an argument that must be a
certain value may not be one, while an argument that may be missing is missing then.
-/

namespace Tagline

namespace Template

/-- How values are treated. -/
structure Mode where
  /-- Whether the use of an undefined value is an error. -/
  strict : Bool
  /-- Whether values are written escaped. -/
  escape : Bool := false
  deriving DecidableEq, Repr

/-- A filter or function: what it makes of its arguments. The first argument of a filter is
the value that it is applied to; arguments by name come as one map after all others. -/
abbrev Callable := Mode → List Value → Run Value

/-- An environment. -/
structure Environment where
  mode : Mode
  filters : Text → Option Callable
  functions : Text → Option Callable

namespace Environment

/-- Binds the name of a filter. -/
def bindFilter (env : Environment) (name : Text) (f : Callable) : Environment :=
  { env with filters := fun n => if n = name then some f else env.filters n }

/-- Binds the name of a function. -/
def bindFunction (env : Environment) (name : Text) (f : Callable) : Environment :=
  { env with functions := fun n => if n = name then some f else env.functions n }

theorem filters_bindFilter (env : Environment) (name n : Text) (f : Callable) :
    (env.bindFilter name f).filters n = if n = name then some f else env.filters n := rfl

theorem functions_bindFunction (env : Environment) (name n : Text) (f : Callable) :
    (env.bindFunction name f).functions n = if n = name then some f else env.functions n := rfl

@[simp] theorem functions_bindFilter (env : Environment) (name : Text) (f : Callable) :
    (env.bindFilter name f).functions = env.functions := rfl

@[simp] theorem filters_bindFunction (env : Environment) (name : Text) (f : Callable) :
    (env.bindFunction name f).filters = env.filters := rfl

end Environment

/-! ### Arguments -/

namespace Argument

/-- Whether a value is the map of the arguments by name. -/
def isKeywords : Value → Bool
  | .map _ keywords => keywords
  | _ => false

/-- An argument that may be anything. -/
def any : List Value → Except Error (Value × List Value)
  | [] => .error { fault := .missingArgument }
  | v :: vs => .ok (v, vs)

/-- An argument that may be anything but undefined. -/
def value (m : Mode) : List Value → Except Error (Value × List Value)
  | [] => .error { fault := .missingArgument }
  | v :: vs => if m.strict && v.isUnset then .error { fault := .undefinedError } else .ok (v, vs)

/-- An argument of which the text counts. -/
def textual (m : Mode) : List Value → Except Error (Value × List Value)
  | [] => .error { fault := .missingArgument }
  | v :: vs =>
    if m.strict && v.isUnset then .error { fault := .undefinedError }
    else if isKeywords v then .error { fault := .invalidOperation }
    else .ok (v, vs)

/-- An argument that is taken as a text. -/
def text (m : Mode) (args : List Value) : Except Error (Text × List Value) := do
  let (v, rest) ← textual m args
  return (v.text, rest)

/-- An argument that may be anything or missing. -/
def optional : List Value → Except Error (Option Value × List Value)
  | [] => .ok (none, [])
  | v :: vs => .ok (if v.isAbsent then none else some v, vs)

/-- An argument of which the text counts, or which is missing. -/
def optionalTextual : List Value → Except Error (Option Value × List Value)
  | [] => .ok (none, [])
  | v :: vs =>
    if v.isAbsent then .ok (none, vs)
    else if isKeywords v then .error { fault := .invalidOperation }
    else .ok (some v, vs)

/-- An argument that is taken as a text or is missing. -/
def optionalText (args : List Value) : Except Error (Option Text × List Value) := do
  let (v, rest) ← optionalTextual args
  return (v.map Value.text, rest)

/-- An argument that is taken as an integer. -/
def int : List Value → Except Error (Int × List Value)
  | [] => .error { fault := .missingArgument }
  | v :: vs =>
    match v.index? with
    | some n => .ok (n, vs)
    | none => .error { fault := .invalidOperation }

/-- An argument that is taken as an integer or is missing. -/
def optionalInt : List Value → Except Error (Option Int × List Value)
  | [] => .ok (none, [])
  | v :: vs =>
    if v.isAbsent then .ok (none, vs)
    else match v.index? with
      | some n => .ok (some n, vs)
      | none => .error { fault := .invalidOperation }

/-- Splits off the arguments by name. -/
def keywords (args : List Value) : List Value × List (Value × Value) :=
  match args.getLast? with
  | some (.map entries true) => (args.dropLast, entries)
  | _ => (args, [])

/-- No further arguments. -/
def done : List Value → Except Error Unit
  | [] => .ok ()
  | _ :: _ => .error { fault := .tooManyArguments }

end Argument

end Template

end Tagline
