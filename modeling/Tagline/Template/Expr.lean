import Tagline.Template.Operator
import Tagline.Template.Token

/-!
# Expressions of the template language

Expressions are read from tokens by precedence, from the loosest to the tightest:
`a if c else b`, `or`, `and`, `not`, comparisons and membership, `+ -`, `~`,
`* / // %`, `**`, the unary minus, then attributes, items and calls, and last the
filters `| f` and tests `is t`. Operators of one level associate to the left, but
comparisons in a row hold if each of them does. The minus belongs to what stands directly
after it, so `-a.b` is an attribute of `-a`; a filter belongs to the operand directly
before it. Texts in quotes next to each other are one text (`Expr.adjoined`).

`Expr.ofTokens` reads a row of tokens that is one expression as a whole. Reading fails at
the first token that does not fit (`Template.unexpected`). Expressions may be nested only
so deep: each one inside brackets and each operand takes up some of the room that is left
(`Template.Room`).

Two forms of the full language are not read, and are syntax errors here: a slice `a[b:c]`,
and an argument that is spread out from a list or map, `f(*a)` or `f(**a)`.
-/

namespace Tagline

namespace Template

/-- A comparison of a chain. -/
structure Comparison where
  operator : Operator
  negated : Bool := false
  deriving DecidableEq, Repr

/-- An expression. -/
inductive Expr where
  | const (v : Value)
  | var (name : Text)
  | list (items : List Expr)
  | map (entries : List (Expr × Expr))
  | neg (e : Expr)
  | not (e : Expr)
  | and (a b : Expr)
  | or (a b : Expr)
  | binary (o : Operator) (a b : Expr)
  /-- Two or more comparisons in a row, each with the operand before it. -/
  | chain (first : Expr) (links : List (Comparison × Expr))
  /-- A choice. Without a second branch it is undefined where the test fails. -/
  | cond (test yes : Expr) (no : Option Expr)
  | attr (e : Expr) (name : Text)
  | item (e key : Expr)
  | callName (name : Text) (args : List Expr) (keywords : List (Text × Expr))
  | callMethod (e : Expr) (name : Text) (args : List Expr) (keywords : List (Text × Expr))
  | callValue (e : Expr) (args : List Expr) (keywords : List (Text × Expr))
  | filter (name : Text) (e : Expr) (args : List Expr) (keywords : List (Text × Expr))
  | test (name : Text) (e : Expr) (args : List Expr) (keywords : List (Text × Expr))
  deriving Repr

/-- The arguments of a call: those by place and those by name. -/
structure Arguments where
  args : List Expr := []
  keywords : List (Text × Expr) := []
  deriving Repr

/-- How much deeper expressions and statements may be nested. -/
structure Room where
  left : Nat := 150
  deriving DecidableEq, Repr

/-- The room inside of something that takes up some of it. -/
def Room.inside (room : Room) : Except Fault Room :=
  if room.left = 0 then .error .syntaxError else .ok ⟨room.left - 1⟩

/-- What was read at the front of a row of tokens, and the tokens that are left. -/
abbrev Read (α : Type) := α × List Token

/-- Why reading does not go on at the front of a row of tokens. -/
def unexpected {α : Type} : List Token → Except Fault α
  | .bad f :: _ => .error f
  | _ => .error .syntaxError

namespace Expr

/-- Whether a token is a given word. -/
def isWord (w : String) : Token → Bool
  | .name s => s == w.toList
  | _ => false

/-- Whether a token is a given symbol. -/
def isSymbol (s : Symbol) : Token → Bool
  | .symbol t => s == t
  | _ => false

/-- What follows a given word. -/
def afterWord? (w : String) : List Token → Option (List Token)
  | t :: ts => if isWord w t then some ts else none
  | [] => none

/-- What follows a given symbol. -/
def afterSymbol? (s : Symbol) : List Token → Option (List Token)
  | t :: ts => if isSymbol s t then some ts else none
  | [] => none

/-- What follows a symbol that must come next. -/
def expect (s : Symbol) (ts : List Token) : Except Fault (List Token) :=
  match afterSymbol? s ts with
  | some ts => .ok ts
  | none => unexpected ts

/-! ### Operators -/

/-- The levels of operators that stand between two operands and associate to the left. -/
inductive Level where
  | disjunction
  | conjunction
  | sum
  | concatenation
  | product
  | power
  deriving DecidableEq, Repr

/-- The expression that an operator of a level makes of its operands. -/
abbrev Combine := Expr → Expr → Expr

/-- The operator of a level that is written as a symbol. -/
def Level.symbol? : Level → Symbol → Option Operator
  | .sum, .plus => some .add
  | .sum, .minus => some .sub
  | .concatenation, .tilde => some .concat
  | .product, .times => some .mul
  | .product, .slash => some .div
  | .product, .doubleSlash => some .floorDiv
  | .product, .percent => some .rem
  | .power, .power => some .pow
  | _, _ => none

/-- The operator of a level at the front, and the rest. -/
def Level.operator? (l : Level) (ts : List Token) : Option (Combine × List Token) :=
  match l, ts with
  | .disjunction, ts => (afterWord? "or" ts).map (Expr.or, ·)
  | .conjunction, ts => (afterWord? "and" ts).map (Expr.and, ·)
  | l, .symbol s :: ts => (l.symbol? s).map (fun o => (Expr.binary o, ts))
  | _, _ => none

/-- The comparison that a symbol stands for. -/
def comparisonOf? : Symbol → Option Operator
  | .eq => some .eq
  | .ne => some .ne
  | .lt => some .lt
  | .le => some .le
  | .gt => some .gt
  | .ge => some .ge
  | _ => none

/-- The comparison at the front, and the rest. -/
def comparison? : List Token → Option (Comparison × List Token)
  | .symbol s :: ts => (comparisonOf? s).map (⟨·, false⟩, ts)
  | ts =>
    match afterWord? "in" ts with
    | some ts => some (⟨.within, false⟩, ts)
    | none => ((afterWord? "not" ts).bind (afterWord? "in")).map (⟨.within, true⟩, ·)

/-- What comparisons make of their operands. -/
def compared (e : Expr) : List (Comparison × Expr) → Expr
  | [] => e
  | [(c, b)] => if c.negated then .not (.binary c.operator e b) else .binary c.operator e b
  | links => .chain e links

/-! ### Operands -/

/-- The texts in quotes at the front of a row, after one that was read. A place without a
token directly after them is passed over, as if the source ended there. -/
def adjoined (s : Text) : List Token → Text × List Token
  | .string t :: ts => adjoined (s ++ t) ts
  | .bad _ :: ts => (s, ts)
  | ts => (s, ts)

/-- Reads an operand of one token, or a text in several pieces. -/
def atom : List Token → Except Fault (Read Expr)
  | .name s :: ts =>
    if s == "true".toList || s == "True".toList then .ok (.const (.bool true), ts)
    else if s == "false".toList || s == "False".toList then .ok (.const (.bool false), ts)
    else if s == "none".toList || s == "None".toList then .ok (.const .none, ts)
    else .ok (.var s, ts)
  | .string s :: ts =>
    let (s, ts) := adjoined s ts
    .ok (.const (.ofText s), ts)
  | .int n :: ts => .ok (.const (.int n true), ts)
  | .float x :: ts => .ok (.const (.float x), ts)
  | ts => unexpected ts

/-- The call of what an expression names. -/
def call (e : Expr) (a : Arguments) : Expr :=
  match e with
  | .var name => .callName name a.args a.keywords
  | .attr e name => .callMethod e name a.args a.keywords
  | e => .callValue e a.args a.keywords

/-- Reads the rest of a name whose parts have points between them. -/
def nameFrom (s : Text) : List Token → Except Fault (Read Text)
  | .symbol .dot :: .name t :: ts => nameFrom (s ++ '.' :: t) ts
  | .symbol .dot :: ts => unexpected ts
  | ts => .ok (s, ts)

/-- Reads the name of a filter or test. -/
def dottedName : List Token → Except Fault (Read Text)
  | .name s :: ts => nameFrom s ts
  | ts => unexpected ts

/-- Whether the one argument of a test follows without parentheses. -/
def startsArgument : List Token → Bool
  | .name s :: _ => !(["and", "or", "else", "is"].any (·.toList == s))
  | .string _ :: _ => true
  | .int _ :: _ => true
  | .float _ :: _ => true
  | .symbol s :: _ => [Symbol.plus, .minus, .bracketOpen, .braceOpen].contains s
  | _ => false

/-! ### Reading -/

mutual

/-- Reads an expression that takes up room of its own. -/
def expr (room : Room) : (fuel : Nat) → List Token → Except Fault (Read Expr)
  | 0, _ => .error .syntaxError
  | fuel + 1, ts => do choice (← room.inside) fuel ts

/-- Reads an expression that may be a choice. -/
def choice (room : Room) : (fuel : Nat) → List Token → Except Fault (Read Expr)
  | 0, _ => .error .syntaxError
  | fuel + 1, ts => do
    let (e, ts) ← level room .disjunction fuel ts
    choices room e fuel ts

/-- Reads the `if` and `else` after an expression. -/
def choices (room : Room) (e : Expr) : (fuel : Nat) → List Token → Except Fault (Read Expr)
  | 0, _ => .error .syntaxError
  | fuel + 1, ts =>
    match afterWord? "if" ts with
    | none => .ok (e, ts)
    | some ts => do
      let (c, ts) ← level room .disjunction fuel ts
      match afterWord? "else" ts with
      | some ts =>
        let (no, ts) ← choice room fuel ts
        choices room (.cond c e (some no)) fuel ts
      | none => choices room (.cond c e none) fuel ts

/-- Reads operands with operators of one level between them. -/
def level (room : Room) (l : Level) : (fuel : Nat) → List Token → Except Fault (Read Expr)
  | 0, _ => .error .syntaxError
  | fuel + 1, ts => do
    let (e, ts) ← operand room l fuel ts
    operators room l e fuel ts

/-- Reads the operators of one level after their first operand. -/
def operators (room : Room) (l : Level) (e : Expr) :
    (fuel : Nat) → List Token → Except Fault (Read Expr)
  | 0, _ => .error .syntaxError
  | fuel + 1, ts =>
    match l.operator? ts with
    | none => .ok (e, ts)
    | some (f, ts) => do
      let (b, ts) ← operand room l fuel ts
      operators room l (f e b) fuel ts

/-- Reads an operand of a level. -/
def operand (room : Room) (l : Level) : (fuel : Nat) → List Token → Except Fault (Read Expr)
  | 0, _ => .error .syntaxError
  | fuel + 1, ts =>
    match l with
    | .disjunction => level room .conjunction fuel ts
    | .conjunction => negation room fuel ts
    | .sum => level room .concatenation fuel ts
    | .concatenation => level room .product fuel ts
    | .product => level room .power fuel ts
    | .power => suffixed room fuel ts

/-- Reads an operand of `and`, which may be negated. -/
def negation (room : Room) : (fuel : Nat) → List Token → Except Fault (Read Expr)
  | 0, _ => .error .syntaxError
  | fuel + 1, ts =>
    match afterWord? "not" ts with
    | some ts => do
      let (e, ts) ← negation room fuel ts
      pure (.not e, ts)
    | none => do
      let (e, ts) ← level room .sum fuel ts
      let (links, ts) ← comparisons room fuel ts
      pure (compared e links, ts)

/-- Reads comparisons, each with the operand after it. -/
def comparisons (room : Room) :
    (fuel : Nat) → List Token → Except Fault (Read (List (Comparison × Expr)))
  | 0, _ => .error .syntaxError
  | fuel + 1, ts =>
    match comparison? ts with
    | none => .ok ([], ts)
    | some (c, ts) => do
      let (e, ts) ← level room .sum fuel ts
      let (links, ts) ← comparisons room fuel ts
      pure ((c, e) :: links, ts)

/-- Reads a signed operand with what follows it: attributes, items, calls, and then filters
and tests. -/
def suffixed (room : Room) : (fuel : Nat) → List Token → Except Fault (Read Expr)
  | 0, _ => .error .syntaxError
  | fuel + 1, ts => do
    let (e, ts) ← signed room fuel ts
    let (e, ts) ← parts room e fuel ts
    filters room e fuel ts

/-- Reads an operand with minus signs before it. -/
def signed (room : Room) : (fuel : Nat) → List Token → Except Fault (Read Expr)
  | 0, _ => .error .syntaxError
  | fuel + 1, ts =>
    match afterSymbol? .minus ts with
    | some ts => do
      let (e, ts) ← signed room fuel ts
      pure (.neg e, ts)
    | none => do primary (← room.inside) fuel ts

/-- Reads a literal, a name, or an expression in brackets. -/
def primary (room : Room) : (fuel : Nat) → List Token → Except Fault (Read Expr)
  | 0, _ => .error .syntaxError
  | fuel + 1, ts =>
    match ts with
    | .symbol .parenOpen :: ts =>
      match afterSymbol? .parenClose ts with
      | some ts => .ok (.list [], ts)
      | none => do
        let (e, ts) ← expr room fuel ts
        -- A comma makes a list of what would be a mere expression in parentheses.
        match afterSymbol? .comma ts with
        | some ts =>
          let (es, ts) ← items room .parenClose fuel ts
          pure (.list (e :: es), ts)
        | none =>
          let ts ← expect .parenClose ts
          pure (e, ts)
    | .symbol .bracketOpen :: ts => do
      let (es, ts) ← items room .bracketClose fuel ts
      pure (.list es, ts)
    | .symbol .braceOpen :: ts => do
      let (es, ts) ← entries room fuel ts
      pure (.map es, ts)
    | ts => atom ts

/-- Reads expressions with commas between them up to a closing bracket. A comma may stand
after the last. -/
def items (room : Room) (close : Symbol) :
    (fuel : Nat) → List Token → Except Fault (Read (List Expr))
  | 0, _ => .error .syntaxError
  | fuel + 1, ts =>
    match afterSymbol? close ts with
    | some ts => .ok ([], ts)
    | none => do
      let (e, ts) ← expr room fuel ts
      match afterSymbol? .comma ts with
      | some ts =>
        let (es, ts) ← items room close fuel ts
        pure (e :: es, ts)
      | none =>
        let ts ← expect close ts
        pure ([e], ts)

/-- Reads the entries of a map up to the closing brace. -/
def entries (room : Room) : (fuel : Nat) → List Token → Except Fault (Read (List (Expr × Expr)))
  | 0, _ => .error .syntaxError
  | fuel + 1, ts =>
    match afterSymbol? .braceClose ts with
    | some ts => .ok ([], ts)
    | none => do
      let (k, ts) ← expr room fuel ts
      let ts ← expect .colon ts
      let (v, ts) ← expr room fuel ts
      match afterSymbol? .comma ts with
      | some ts =>
        let (es, ts) ← entries room fuel ts
        pure ((k, v) :: es, ts)
      | none =>
        let ts ← expect .braceClose ts
        pure ([(k, v)], ts)

/-- Reads the attributes, items and calls after an expression. -/
def parts (room : Room) (e : Expr) : (fuel : Nat) → List Token → Except Fault (Read Expr)
  | 0, _ => .error .syntaxError
  | fuel + 1, ts =>
    match ts with
    | .symbol .dot :: .name s :: ts => parts room (.attr e s) fuel ts
    | .symbol .dot :: .int n :: ts => parts room (.item e (.const (.int n true))) fuel ts
    | .symbol .dot :: ts => unexpected ts
    | .symbol .bracketOpen :: ts => do
      let (k, ts) ← expr room fuel ts
      let ts ← expect .bracketClose ts
      parts room (.item e k) fuel ts
    | .symbol .parenOpen :: ts => do
      let (a, ts) ← arguments room {} fuel ts
      parts room (call e a) fuel ts
    | ts => .ok (e, ts)

/-- Reads the arguments of a call after those that were read, up to the closing parenthesis.
After an argument by name no other may follow by place. -/
def arguments (room : Room) (a : Arguments) :
    (fuel : Nat) → List Token → Except Fault (Read Arguments)
  | 0, _ => .error .syntaxError
  | fuel + 1, ts =>
    match afterSymbol? .parenClose ts with
    | some ts => .ok (a, ts)
    | none => do
      let (e, ts) ← expr room fuel ts
      -- The name of an argument reads like any expression until the sign after it.
      let (a, ts) ← match e, afterSymbol? .assign ts with
        | .var name, some ts => do
          let (v, ts) ← expr room fuel ts
          pure ({ a with keywords := a.keywords ++ [(name, v)] }, ts)
        | _, _ =>
          if a.keywords.isEmpty then .ok ({ a with args := a.args ++ [e] }, ts)
          else .error .syntaxError
      match afterSymbol? .comma ts with
      | some ts => arguments room a fuel ts
      | none =>
        let ts ← expect .parenClose ts
        pure (a, ts)

/-- Reads the arguments of a filter, if it has any. -/
def optionalArguments (room : Room) : (fuel : Nat) → List Token → Except Fault (Read Arguments)
  | 0, _ => .error .syntaxError
  | fuel + 1, ts =>
    match afterSymbol? .parenOpen ts with
    | some ts => arguments room {} fuel ts
    | none => .ok ({}, ts)

/-- Reads the arguments of a test, if it has any. A single one may stand without
parentheses. -/
def testArguments (room : Room) : (fuel : Nat) → List Token → Except Fault (Read Arguments)
  | 0, _ => .error .syntaxError
  | fuel + 1, ts =>
    if startsArgument ts then do
      let (e, ts) ← signed room fuel ts
      let (e, ts) ← parts room e fuel ts
      pure ({ args := [e] }, ts)
    else optionalArguments room fuel ts

/-- Reads the filters and tests after an expression. -/
def filters (room : Room) (e : Expr) : (fuel : Nat) → List Token → Except Fault (Read Expr)
  | 0, _ => .error .syntaxError
  | fuel + 1, ts =>
    match afterSymbol? .pipe ts, afterWord? "is" ts with
    | some ts, _ => do
      let (s, ts) ← dottedName ts
      let (a, ts) ← optionalArguments room fuel ts
      filters room (.filter s e a.args a.keywords) fuel ts
    | none, some ts => do
      let (negated, ts) := match afterWord? "not" ts with
        | some ts => (true, ts)
        | none => (false, ts)
      let (s, ts) ← dottedName ts
      let (a, ts) ← testArguments room fuel ts
      let t := Expr.test s e a.args a.keywords
      filters room (if negated then .not t else t) fuel ts
    | none, none => .ok (e, ts)

end

/-! ### Rows of tokens -/

/-- A bound for the number of steps that reading a row of tokens takes. -/
def fuelFor (ts : List Token) : Nat := 32 * (ts.length + 1)

/-- What was read, if nothing is left. -/
def complete {α : Type} (r : Except Fault (Read α)) : Except Fault α :=
  match r with
  | .ok (a, []) => .ok a
  | .ok (_, ts) => unexpected ts
  | .error f => .error f

/-- Reads a row of tokens that is one expression. -/
def ofTokens (room : Room) (ts : List Token) : Except Fault Expr :=
  complete (expr room (fuelFor ts) ts)

/-- Reads a row of tokens that is one expression and no choice. -/
def ofTokensPlain (room : Room) (ts : List Token) : Except Fault Expr :=
  complete (level room .disjunction (fuelFor ts) ts)

/-- Reads a source that is one expression. -/
def ofSource (s : Text) : Except Fault Expr := ofTokens {} (tokens s)

end Expr

end Template

end Tagline
