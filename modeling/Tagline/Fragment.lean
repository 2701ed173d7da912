import Tagline.Failure
import Tagline.Json.Reader
import Tagline.Resolver
import Tagline.Template.Evaluation

/-!
# Resolving fragments as expressions

A fragment may be an expression of the template language over data that the host knows,
such as `site ~ ' home'`. It is resolved if its value is a text or a number
(`Engine.resolve`): a value of any other kind cannot be written in script. A name that
the data do not hold is an error, so that a fragment about the client's data is kept.

What compiles and evaluates an expression is an *engine* (`Fragment.Engine`). The
resolver asks it for the kind of a value and for its text, and looks into it no further,
so it is the same for each engine. `Fragment.builtin` is the one of `Tagline.Template`,
which knows a part of the language only; `Fragment.resolve` is the resolver over it.
-/

namespace Tagline

namespace Fragment

/-- What an engine makes of a name that the data do not hold. -/
inductive Undefined where
  /-- The name is undefined, and may be used like a value. -/
  | lenient
  /-- To use the name is an error. -/
  | strict
  deriving DecidableEq, Repr

/-- An engine, with as much of it as a resolver uses. What it cannot compile or evaluate it
refuses with a message. -/
structure Engine where
  /-- Compiled expressions. -/
  Program : Type
  /-- What expressions are evaluated over. -/
  Data : Type
  /-- What expressions evaluate to. -/
  Value : Type
  compile : Undefined → Text → Except Text Program
  eval : Undefined → Program → Data → Except Text Value
  kind : Value → Template.Kind
  /-- A value in writing. -/
  text : Value → Text

namespace Engine

variable (engine : Engine)

/-- The value of an expression: it is compiled, and then evaluated. -/
def value (undefined : Undefined) (data : engine.Data) (code : Text) :
    Except Text engine.Value := do
  let program ← engine.compile undefined code
  engine.eval undefined program data

/-- The reason that values of a kind are refused. -/
def refusal (k : Template.Kind) : Text := k.name ++ " result has no script literal".toList

/-- The text of a fragment with the given value. -/
def textOf (code : Text) (v : engine.Value) : Except Unresolved Text :=
  match engine.kind v with
  | .string => .ok (engine.text v)
  | .number => .ok (engine.text v)
  | .undefined => .error (.undefined code)
  | .none => .error (.undefined code)
  | k => .error (.failed code (.refused (refusal k)))

/-- Resolves fragments as expressions over the given data. -/
def resolve (data : engine.Data) : Resolver := fun code =>
  match engine.value .strict data code with
  | .ok v => engine.textOf code v
  | .error message => .error (.failed code (.invalid message))

end Engine

/-! ### The engine of the template language -/

/-- The built-in engine. -/
def builtin : Engine where
  Program := Template.Expr
  Data := Template.Value
  Value := Template.Value
  compile _ code := (Template.Expr.ofSource code).mapError Template.Fault.message
  eval undefined e data :=
    ((Template.Builtin.environment (undefined == .strict)).eval { root := data } e).outcome.mapError
      Template.Error.message
  kind := Template.Value.kind
  text := Template.Value.text

/-- The data of a host that has none. -/
def noData : Template.Value := .map [] false

/-- Resolves fragments by the built-in engine. -/
def resolve (data : Template.Value) : Resolver := builtin.resolve data

/-- Resolves fragments by the built-in engine, over the data in a JSON text. -/
def resolveOver (json : Text) : Except Failure Resolver :=
  match Json.read? json with
  | some j => .ok (resolve (.ofJson j))
  | none => .error .invalidData

end Fragment

end Tagline
