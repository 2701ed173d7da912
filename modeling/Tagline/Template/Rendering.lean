import Tagline.Template.Evaluation
import Tagline.Template.Statement

/-!
# Rendering templates

The output of a template is the text of its pieces in order. Whether values are escaped
depends on the template's name (`Template.escapes`). The output of a filtered block
is safe where values are escaped, since they were escaped inside it.
-/

namespace Tagline

namespace Template

namespace Environment

/-- A value as a template writes it. -/
def written (env : Environment) (v : Value) : Except Error Text := do
  let v ← env.defined v
  return if env.mode.escape then v.escaped else v.text

/-- The parts that a loop goes through. -/
def loopItems (env : Environment) (v : Value) : Except Error (List Value) := do
  match (← env.defined v).parts? with
  | some vs => .ok vs
  | none => invalid

/-- What a loop of `n` rounds tells in the round after `i` others. -/
def loopState (n i : Nat) : Value :=
  let number (k : Nat) := Builtin.natValue k
  .map
    [(.ofText "index0".toList, number i), (.ofText "index".toList, number (i + 1)),
      (.ofText "length".toList, number n), (.ofText "revindex".toList, number (n - i)),
      (.ofText "revindex0".toList, number (n - i - 1)), (.ofText "first".toList, .bool (i == 0)),
      (.ofText "last".toList, .bool (i + 1 == n))]
    false

/-- Sends a value through filters. -/
def applyFilters (env : Environment) (sc : Scope) : Value → List FilterCall → Run Value
  | v, [] => pure v
  | v, f :: fs => do
    let vs ← env.evalAll sc f.args
    let ks ← env.evalKeywords sc [] f.keywords
    applyFilters env sc (← env.applyFilter f.name (v :: arguments vs ks)) fs

mutual

/-- The output of a statement, and the scope after it. -/
def exec (env : Environment) (sc : Scope) : Statement → Run (Text × Scope)
  | .text s => pure (s, sc)
  | .output e => do
    let t ← Run.lift (env.written (← env.eval sc e))
    return (t, sc)
  | .choice test yes no => do
    if ← Run.lift (env.truth (← env.eval sc test)) then execAll env sc yes
    else execAll env sc no
  | .loop name items guard body empty => do
    let vs ← Run.lift (env.loopItems (← env.eval sc items))
    let vs ← match guard with
      | none => pure vs
      | some e => vs.filterM fun v => do
        Run.lift (env.truth (← env.eval (sc.push.assign name v) e))
    if vs.isEmpty then execAll env sc empty
    else
      -- One frame serves all rounds, so that what one assigns is there in the next.
      let step (done : List Text × Scope) (v : Value × Nat) : Run (List Text × Scope) := do
        let sc := (done.2.assign "loop".toList (loopState vs.length v.2)).assign name v.1
        let (t, sc) ← execAll env sc body
        return (t :: done.1, sc)
      let (ts, sc) ← vs.zipIdx.foldlM step ([], sc.push)
      return (ts.reverse.flatten, sc.pop)
  | .assign name e => do
    let v ← env.eval sc e
    return ([], sc.assign name v)
  | .filtered filters body => do
    let (t, sc) ← execAll env sc body
    -- What was escaped inside the block is not to be escaped again.
    let v ← env.applyFilters sc (.string t env.mode.escape) filters
    let t ← Run.lift (env.written v)
    return (t, sc)

/-- The output of statements in order. -/
def execAll (env : Environment) (sc : Scope) : List Statement → Run (Text × Scope)
  | [] => pure ([], sc)
  | s :: ss => do
    let (t, sc) ← exec env sc s
    let (u, sc) ← execAll env sc ss
    return (t ++ u, sc)

end

end Environment

/-- The output of a template with the given data. A template without a name is not
escaped. -/
def render (env : Environment) (name : Option Text) (source : Text) (data : Value) : Run Text :=
  match Statement.ofSource source with
  | .error f => Run.fail f
  | .ok ss => do
    let env := { env with mode := { env.mode with escape := name.any escapes } }
    let (t, _) ← env.execAll { root := data } ss
    return t

end Template

end Tagline
