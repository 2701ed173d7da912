import Tagline.Template.Expr
import Tagline.Template.Piece

/-!
# Statements of the template language

The pieces of a template form a tree: a statement that opens a block owns the pieces
up to the one that closes it. There are choices, loops, assignments, and blocks whose
output goes through filters. The statements inside a block have less room than the block
itself, which bounds how deep they can be nested.

The statements of the full language that join several templates (`extends`, `include`,
`import`, `macro`) are not read, nor an assignment of a block or to several names.
-/

namespace Tagline

namespace Template

/-- A filter with its arguments. -/
structure FilterCall where
  name : Text
  args : List Expr
  keywords : List (Text × Expr)
  deriving Repr

/-- A statement. -/
inductive Statement where
  | text (s : Text)
  | output (e : Expr)
  | choice (test : Expr) (yes no : List Statement)
  /-- A loop over the items for which the guard holds, with what is written if there are
  none. -/
  | loop (name : Text) (items : Expr) (guard : Option Expr) (body empty : List Statement)
  | assign (name : Text) (e : Expr)
  | filtered (filters : List FilterCall) (body : List Statement)
  deriving Repr

namespace Statement

/-! ### Opening statements -/

/-- Reads the filters of a block, with `|` between them. -/
def filterCalls (room : Room) : (fuel : Nat) → List Token → Except Fault (List FilterCall)
  | 0, ts => unexpected ts
  | fuel + 1, ts => do
    let (s, ts) ← Expr.dottedName ts
    let (a, ts) ← Expr.optionalArguments room (Expr.fuelFor ts) ts
    match ts with
    | [] => pure [⟨s, a.args, a.keywords⟩]
    | ts =>
      let fs ← filterCalls room fuel (← Expr.expect .pipe ts)
      pure (⟨s, a.args, a.keywords⟩ :: fs)

/-- Reads a name that a template may assign, and gives it with the rest. -/
def target : List Token → Except Fault (Read Text)
  | .name s :: ts =>
    if ["true", "True", "false", "False", "none", "None", "loop", "self"].any (·.toList == s) then
      .error .syntaxError
    else .ok (s, ts)
  | ts => unexpected ts

/-- What a statement is, by its first word. -/
inductive Head where
  | choice (test : Expr)
  | loop (name : Text) (items : Expr) (guard : Option Expr)
  | assign (name : Text) (e : Expr)
  | filtered (filters : List FilterCall)

/-- Reads the head of a loop. -/
def loopHead (room : Room) (ts : List Token) : Except Fault Head := do
  let (name, ts) ← target ts
  match Expr.afterWord? "in" ts with
  | none => unexpected ts
  | some ts =>
    let (items, ts) ← Expr.level room .disjunction (Expr.fuelFor ts) ts
    match Expr.afterWord? "if" ts with
    | none => Expr.complete (.ok (.loop name items none, ts))
    | some ts => return .loop name items (some (← Expr.ofTokens room ts))

/-- Reads an assignment. -/
def assignment (room : Room) (ts : List Token) : Except Fault Head := do
  let (name, ts) ← target ts
  return .assign name (← Expr.ofTokens room (← Expr.expect .assign ts))

/-- Reads the tokens of a statement that opens a block or stands alone. -/
def Head.ofTokens (room : Room) : List Token → Except Fault Head
  | .name s :: ts =>
    if s == "if".toList then Head.choice <$> Expr.ofTokensPlain room ts
    else if s == "for".toList then loopHead room ts
    else if s == "set".toList then assignment room ts
    else if s == "filter".toList then Head.filtered <$> filterCalls room (ts.length + 1) ts
    else .error .syntaxError
  | ts => unexpected ts

/-! ### Blocks -/

/-- A statement that divides or closes a block: its first word and the tokens after it. -/
abbrev Divider := Text × List Token

/-- The words that divide or close blocks. -/
def isDivider (s : Text) : Bool :=
  ["else", "elif", "endif", "endfor", "endfilter"].any (·.toList == s)

/-- Whether a divider has the given word. -/
def hasWord (w : String) : Option Divider → Bool
  | some (s, _) => s == w.toList
  | none => false

/-- Accepts a divider that is the given word alone. -/
def close (w : String) : Option Divider → Except Fault Unit
  | some (s, ts) =>
    if s == w.toList then Expr.complete (.ok ((), ts)) else .error .syntaxError
  | none => .error .syntaxError

mutual

/-- Reads statements up to a divider, and gives them with the divider, if there is one, and
the rest. -/
def block (room : Room) : (fuel : Nat) → List Piece →
    Except Fault (List Statement × Option Divider × List Piece)
  | 0, _ => .error .syntaxError
  | _, [] => .ok ([], none, [])
  | _, .unclosed :: _ => .error .syntaxError
  | fuel + 1, .text s :: ps => do
    let (ss, divider, ps) ← block room fuel ps
    pure (.text s :: ss, divider, ps)
  | fuel + 1, .output ts :: ps => do
    let e ← Expr.ofTokens room ts
    let (ss, divider, ps) ← block room fuel ps
    pure (.output e :: ss, divider, ps)
  | fuel + 1, .statement ts :: ps =>
    match ts with
    | .name s :: rest =>
      if isDivider s then .ok ([], some (s, rest), ps)
      else do
        let (head, ps) ← statement (← room.inside) ts fuel ps
        let (ss, divider, ps) ← block room fuel ps
        pure (head :: ss, divider, ps)
    | ts => unexpected ts

/-- Reads a statement whose first tokens are given, with the blocks that it owns. -/
def statement (room : Room) (ts : List Token) :
    (fuel : Nat) → List Piece → Except Fault (Statement × List Piece)
  | 0, _ => .error .syntaxError
  | fuel + 1, ps => do
    match ← Head.ofTokens room ts with
    | .assign name e => pure (.assign name e, ps)
    | .filtered fs =>
      let (body, divider, ps) ← block room fuel ps
      close "endfilter" divider
      pure (.filtered fs body, ps)
    | .loop name items guard =>
      let (body, divider, ps) ← block room fuel ps
      if hasWord "else" divider then
        close "else" divider
        let (empty, divider, ps) ← block room fuel ps
        close "endfor" divider
        pure (.loop name items guard body empty, ps)
      else
        close "endfor" divider
        pure (.loop name items guard body [], ps)
    | .choice test => branches room test fuel ps

/-- Reads the branches of a choice. -/
def branches (room : Room) (test : Expr) :
    (fuel : Nat) → List Piece → Except Fault (Statement × List Piece)
  | 0, _ => .error .syntaxError
  | fuel + 1, ps => do
    let (yes, divider, ps) ← block room fuel ps
    match divider with
    | some (s, ts) =>
      if s == "elif".toList then
        let (no, ps) ← branches room (← Expr.ofTokensPlain room ts) fuel ps
        pure (.choice test yes [no], ps)
      else if s == "else".toList then
        close "else" divider
        let (no, divider, ps) ← block room fuel ps
        close "endif" divider
        pure (.choice test yes no, ps)
      else
        close "endif" divider
        pure (.choice test yes [], ps)
    | none => .error .syntaxError

end

/-- Reads the source of a template. -/
def ofSource (s : Text) : Except Fault (List Statement) := do
  let ps := pieces s
  match ← block {} (3 * ps.length + 3) ps with
  | (ss, none, _) => pure ss
  | _ => .error .syntaxError

end Statement

end Template

end Tagline
