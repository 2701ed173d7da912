import Tagline.Filter
import Tagline.LoopNames
import Tagline.Resolver
import Tagline.Tag

/-!
# Blocks

A block is one use of a filter in a host template: the lines under it, and an argument
that may stand beside its name. Its expansion is the text that takes its place
(`Block.expand`): one tag for each line of a `js` block, and one tag in all for a
block of any other filter.

A `js` block reads its lines, and the argument only if it has none; the other filters
read the argument, and the lines only if there is none.

* `Block.render` is the expansion without a resolver, `Block.renderWith` the one in
  which the expressions of a `js` block are resolved.
* `Block.value_expandLines`: the lines of a `js` block are expanded one by one, each on its
  own.
* `Block.renderNamed` expands a block that is given by the name of its filter.
-/

namespace Tagline

/-- One use of a filter. -/
structure Block where
  filter : Filter
  body : List Text := []
  argument : Option Text := none
  deriving DecidableEq, Repr

namespace Block

/-- The argument, or else the lines as one text. -/
def argumentText (b : Block) : Text := b.argument.getD (Text.joinLines b.body)

/-- The lines, or else those of the argument. -/
def scriptLines (b : Block) : List Text :=
  if b.body.isEmpty then Text.lines (b.argument.getD []) else b.body

/-- The block with the filter of a name. -/
def named (name : Text) (body : List Text) (argument : Option Text) :
    Except UnknownFilter Block :=
  (Filter.ofName name).map fun filter => { filter, body, argument }

/-- A clause in which the expression is settled, if it echoes one. -/
def resolved (resolver : Option Resolver) (c : Clause) : Clause :=
  match c, resolver with
  | .echo code, some r => .echo (r.settled code)
  | c, _ => c

/-- Resolves the expression of a clause that echoes one. -/
def resolve (resolver : Option Resolver) (c : Clause) : Logged Clause :=
  match c, resolver with
  | .echo code, some r => Clause.echo <$> r.settle code
  | c, _ => pure c

/-- Expands lines one by one. -/
def expandLines (resolver : Option Resolver) : List Text → Logged Text
  | [] => pure []
  | line :: lines => do
    let c ← resolve resolver (← Clause.read line)
    let rest ← expandLines resolver lines
    return c.render ++ rest

/-- The clause of a block that stands for one clause in all, and `none` for a `js`
block. -/
def clause? (b : Block) : Logged (Option Clause) :=
  match b.filter with
  | .script => pure none
  | .ifThen => pure (some (.conditional .ifThen (some (Text.dropTerminator b.argumentText))))
  | .elseIf => pure (some (.conditional .elseIf (some (Text.dropTerminator b.argumentText))))
  | .otherwise => pure (some (.conditional .otherwise none))
  | .close => pure (some (.blockEnd (Clause.closesLoop (Text.dropTerminator b.argumentText))))
  | .each => (fun names => some names.clause) <$> LoopNames.read b.argumentText
  | .endEach => pure (some .loopEnd)

/-- The message that a block is expanded. -/
def startMessage (b : Block) : Text :=
  "rendering '".toList ++ b.filter.name ++ "' filter (".toList ++ Number.natText b.body.length ++
    " body lines)".toList

/-- Expands a block. -/
def expand (resolver : Option Resolver) (b : Block) : Logged Text := do
  -- The lines of the argument are not counted, even where they are the ones that are read.
  Logged.note .debug .block b.startMessage
  match ← b.clause? with
  | some c => return c.render
  | none => expandLines resolver b.scriptLines

/-- The expansion of a block whose expressions are kept. -/
def render (b : Block) : Text := (b.expand none).value

/-- The expansion of a block whose expressions are resolved. -/
def renderWith (r : Resolver) (b : Block) : Text := (b.expand (some r)).value

/-- The expansion of a block that is given by the name of its filter. -/
def renderNamed (name : Text) (body : List Text) (argument : Option Text) :
    Except UnknownFilter Text :=
  (named name body argument).map render

/-! ### What an expansion is made of -/

@[simp] theorem value_resolve (resolver : Option Resolver) (c : Clause) :
    (resolve resolver c).value = resolved resolver c := by
  cases c <;> cases resolver <;> simp [resolve, resolved]

/-- **Lines are expanded one by one.** -/
theorem value_expandLines (resolver : Option Resolver) (lines : List Text) :
    (expandLines resolver lines).value =
      lines.flatMap fun line => (resolved resolver (Clause.ofLine line)).render := by
  induction lines with
  | nil => rfl
  | cons line lines ih => simp [expandLines, ih]

@[simp] theorem resolved_none (c : Clause) : resolved none c = c := by
  cases c <;> rfl

end Block

end Tagline
