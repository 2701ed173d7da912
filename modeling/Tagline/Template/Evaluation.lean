import Tagline.Template.Builtin
import Tagline.Template.Constant

/-!
# The value of an expression

An expression is evaluated in an environment and a *scope*, which holds the data of
the template and what its loops and assignments have named. A name means the
innermost thing that has it: a local, then the data, then a function of the
environment.

An attribute or item that is not there is undefined; to ask for one of something that
is itself undefined is an error. Where undefined values are errors, so is using one in
an operator or a test, unless it comes from a branch that is left out.

Of the tests of the language there are the three about what is defined
(`Environment.applyTest`); the others, such as `odd` and `string`, are unknown here.
-/

namespace Tagline

namespace Template

/-- What the names in a template mean: the frames of local names, the innermost first, and the
data. -/
structure Scope where
  frames : List (List (Text × Value)) := [[]]
  root : Value := .undefined false

namespace Scope

/-- The meaning of a name. -/
def find? (sc : Scope) (name : Text) : Option Value :=
  match sc.frames.findSome? (·.lookup name) with
  | some v => some v
  | none => sc.root.item? (.ofText name)

/-- Gives a name a meaning in the innermost frame. -/
def assign (sc : Scope) (name : Text) (v : Value) : Scope :=
  match sc.frames with
  | [] => { sc with frames := [[(name, v)]] }
  | f :: fs => { sc with frames := ((name, v) :: f) :: fs }

/-- Opens a frame. -/
def push (sc : Scope) : Scope := { sc with frames := [] :: sc.frames }

/-- Closes the innermost frame. -/
def pop (sc : Scope) : Scope := { sc with frames := sc.frames.tail }

end Scope

namespace Environment

/-- A value that must be defined where undefined ones are errors. -/
def defined (env : Environment) (v : Value) : Except Error Value :=
  if env.mode.strict && v.isUnset then .error { fault := .undefinedError } else .ok v

/-- The truth value of a test. -/
def truth (env : Environment) (v : Value) : Except Error Bool := do
  return (← env.defined v).truth

/-- A part of a value, or undefined if it is not there. -/
def part (v : Value) (p : Option Value) : Except Error Value :=
  match p with
  | some w => .ok w
  | none => if v.isUndefined then .error { fault := .undefinedError } else .ok (.undefined false)

/-- The attribute of a value: only maps have any. -/
def attributeOf (v : Value) (name : Text) : Except Error Value :=
  match v with
  | .map entries _ => part v (Value.find? (.ofText name) entries)
  | v => part v none

/-- The meaning of a name: undefined if it has none. -/
def variableValue (env : Environment) (sc : Scope) (name : Text) : Value :=
  match sc.find? name with
  | some v => v
  | none => if (env.functions name).isSome then .function name else .undefined false

/-- Calls a value. -/
def callValue (env : Environment) (v : Value) (args : List Value) : Run Value :=
  match v with
  | .function name =>
    match env.functions name with
    | some f => f env.mode args
    | none => Run.fail .unknownFunction
  | _ => Run.fail .invalidOperation

/-- Calls what a name means. -/
def callName (env : Environment) (sc : Scope) (name : Text) (args : List Value) : Run Value :=
  match env.variableValue sc name with
  | .undefined _ => Run.fail .unknownFunction
  | v => env.callValue v args

/-- Calls an attribute of a value. -/
def callMethod (env : Environment) (v : Value) (name : Text) (args : List Value) : Run Value :=
  match v with
  | .map entries _ =>
    match Value.find? (.ofText name) entries with
    | some f => env.callValue f args
    | none => Run.fail .unknownMethod
  | _ => Run.fail .unknownMethod

/-- Applies a filter to a value and arguments. -/
def applyFilter (env : Environment) (name : Text) (args : List Value) : Run Value :=
  match env.filters name with
  | some f => f env.mode args
  | none => Run.fail .unknownFilter

/-- Applies a test to a value. Only three tests are known. -/
def applyTest (name : Text) (v : Value) (args : List Value) : Except Error Value :=
  if name = "defined".toList then do
    Argument.done args
    pure (.bool !v.isUndefined)
  else if name = "undefined".toList then do
    Argument.done args
    pure (.bool v.isUndefined)
  else if name = "none".toList then do
    Argument.done args
    pure (.bool (v.kind == .none))
  else .error { fault := .unknownTest }

/-- The arguments of a call: those by name come as one map after the others. -/
def arguments (args : List Value) (keywords : List (Value × Value)) : List Value :=
  if keywords.isEmpty then args else args ++ [.map keywords true]

/-- Applies an operator to two values. -/
def operate (env : Environment) (o : Operator) (a b : Value) : Except Error Value := do
  Value.apply o (← env.defined a) (← env.defined b)

/-- The outcome of a comparison of two values. -/
def compare (env : Environment) (c : Comparison) (a b : Value) : Except Error Value := do
  c.apply (← env.defined a) (← env.defined b)

mutual

/-- The value of an expression. -/
def eval (env : Environment) (sc : Scope) : Expr → Run Value
  | .const v => pure v
  | .var name => pure (env.variableValue sc name)
  | .list items => do return .list (← evalAll env sc items)
  | .map entries => do return .map (← evalEntries env sc [] entries) false
  | .neg e => do Run.lift (Value.neg (← eval env sc e))
  | .not e => do
    let b ← Run.lift (env.truth (← eval env sc e))
    return .bool !b
  -- The value of `and` and `or` is that of the operand that decides, unless it is constant.
  | .and a b =>
    match a.constant?, b.constant? with
    | some v, some w => pure (v.conjunction w)
    | _, _ => do
      let v ← eval env sc a
      if ← Run.lift (env.truth v) then eval env sc b else pure v
  | .or a b => do
    let v ← eval env sc a
    if ← Run.lift (env.truth v) then pure v else eval env sc b
  | .binary o a b => do
    let v ← eval env sc a
    let w ← eval env sc b
    Run.lift (env.operate o v w)
  | .chain e links => do evalChain env sc (← eval env sc e) links
  | .cond test yes none => do
    if ← Run.lift (env.truth (← eval env sc test)) then eval env sc yes
    else pure (.undefined true)
  | .cond test yes (some no) => do
    if ← Run.lift (env.truth (← eval env sc test)) then eval env sc yes else eval env sc no
  | .attr e name => do Run.lift (attributeOf (← eval env sc e) name)
  | .item e key => do
    let v ← eval env sc e
    let k ← eval env sc key
    Run.lift (part v (v.item? k))
  -- What is called is looked up after its arguments have been evaluated.
  | .callName name args keywords => do
    let vs ← evalAll env sc args
    let ks ← evalKeywords env sc [] keywords
    env.callName sc name (arguments vs ks)
  | .callMethod e name args keywords => do
    let v ← eval env sc e
    let vs ← evalAll env sc args
    let ks ← evalKeywords env sc [] keywords
    env.callMethod v name (arguments vs ks)
  | .callValue e args keywords => do
    let v ← eval env sc e
    let vs ← evalAll env sc args
    let ks ← evalKeywords env sc [] keywords
    env.callValue v (arguments vs ks)
  | .filter name e args keywords => do
    let v ← eval env sc e
    let vs ← evalAll env sc args
    let ks ← evalKeywords env sc [] keywords
    env.applyFilter name (v :: arguments vs ks)
  | .test name e args keywords => do
    let v ← eval env sc e
    let vs ← evalAll env sc args
    let ks ← evalKeywords env sc [] keywords
    Run.lift (applyTest name v (arguments vs ks))

/-- The values of expressions, in order. -/
def evalAll (env : Environment) (sc : Scope) : List Expr → Run (List Value)
  | [] => pure []
  | e :: es => do
    let v ← eval env sc e
    let vs ← evalAll env sc es
    return v :: vs

/-- Whether a row of comparisons holds, the first with `v`. The operands after one that does
not hold are not looked at. -/
def evalChain (env : Environment) (sc : Scope) (v : Value) :
    List (Comparison × Expr) → Run Value
  | [] => pure (.bool true)
  | (c, e) :: links => do
    let w ← eval env sc e
    let r ← Run.lift (env.compare c v w)
    if r.truth then evalChain env sc w links else pure (.bool false)

/-- The entries of a map, added one by one to `done`. -/
def evalEntries (env : Environment) (sc : Scope) (done : List (Value × Value)) :
    List (Expr × Expr) → Run (List (Value × Value))
  | [] => pure done
  | (k, e) :: es => do
    let key ← eval env sc k
    let v ← eval env sc e
    evalEntries env sc (Value.insert key v done) es

/-- The arguments by name, added one by one to `done`. -/
def evalKeywords (env : Environment) (sc : Scope) (done : List (Value × Value)) :
    List (Text × Expr) → Run (List (Value × Value))
  | [] => pure done
  | (k, e) :: es => do
    let v ← eval env sc e
    evalKeywords env sc (Value.insert (.ofText k) v done) es

end

end Environment

end Template

end Tagline
