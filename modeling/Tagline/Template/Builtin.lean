import Tagline.Template.Environment
import Tagline.Template.Escape
import Tagline.Template.Operator
import Tagline.Text.Blank
import Tagline.Text.Letter

/-!
# Built-in filters and functions

A part of the filters and functions that the template language comes with. The filters are
those on texts and on the order of lists, under the sixteen names of `Builtin.filterTable`;
there are none that compute (`sum`, `abs`, `round`), choose (`select`, `map`) or convert
(`int`, `list`). Of the functions in `Builtin.functionTable`, `debug` and `namespace` can be
named, which decides the kind of such an expression, and fail if they are called. A name that
is not in a table is an unknown one, also where the full language has it.

The filters on texts take any value in writing, and most of them keep the mark of a safe
text. Where values are written escaped, a text put together from several (`Builtin.joined`,
`Builtin.replace`) is safe as soon as one of them is, and the others are escaped first.
-/

namespace Tagline

namespace Template

namespace Builtin

/-- Punctuation of the basic range. -/
def isPunctuation (c : Char) : Bool :=
  let n := c.toNat
  (0x21 ≤ n && n ≤ 0x2F) || (0x3A ≤ n && n ≤ 0x40) || (0x5B ≤ n && n ≤ 0x60) ||
    (0x7B ≤ n && n ≤ 0x7E)

/-- The first letter of each word in upper case and the others in lower case. -/
def titleFrom (first : Bool) : Text → Text
  | [] => []
  | c :: s =>
    if isPunctuation c || Text.isBlank c then c :: titleFrom true s
    else (if first then Text.upperChar c else Text.lowerChar c) ++ titleFrom false s

/-- Without the characters at either end that satisfy a condition. -/
def trimBy (p : Char → Bool) (s : Text) : Text :=
  ((s.dropWhile p).reverse.dropWhile p).reverse

/-- Whether a value may stand before another in ascending order. The case of texts does not
matter. -/
def inOrder (a b : Value) : Bool :=
  match a, b with
  | .string s _, .string t _ => Text.compare (s.map Char.toLower) (t.map Char.toLower) != .gt
  | a, b => Value.compare a b != .gt

/-- A filter that changes a text and keeps the mark of a safe one. -/
def onText (f : Text → Text) (m : Mode) (args : List Value) : Except Error Value := do
  let (v, rest) ← Argument.textual m args
  Argument.done rest
  pure (.string (f v.text) v.isSafe)

/-- The words of a text with their first letters in upper case. The result is not safe. -/
def title (m : Mode) (args : List Value) : Except Error Value := do
  let (s, rest) ← Argument.text m args
  Argument.done rest
  pure (.ofText (titleFrom true s))

/-- The parts of the value that a filter is applied to. -/
def partsOf (v : Value) : Except Error (List Value) :=
  match v.parts? with
  | some vs => .ok vs
  | none => invalid

/-- A natural number as a value. -/
def natValue (n : Nat) : Value := .int n true

/-- The length of a text, list or map. -/
def length (_ : Mode) (args : List Value) : Except Error Value := do
  let (v, rest) ← Argument.any args
  Argument.done rest
  match v.length? with
  | some n => pure (natValue n)
  | none => invalid

/-- The first part of a value. -/
def first (_ : Mode) (args : List Value) : Except Error Value := do
  let (v, rest) ← Argument.any args
  Argument.done rest
  match v with
  | .lazy vs times =>
      pure (if times = 0 then .undefined false else vs.head?.getD (.undefined false))
  | v =>
    if v.length?.isNone then invalid
    else pure ((← partsOf v).head?.getD (.undefined false))

/-- The last part of a text or list. That of a safe text is safe. -/
def last (_ : Mode) (args : List Value) : Except Error Value := do
  let (v, rest) ← Argument.any args
  Argument.done rest
  match v with
  | .string s safe => pure ((s.getLast?.map fun c => .string [c] safe).getD (.undefined false))
  | .list vs => pure (vs.getLast?.getD (.undefined false))
  | .lazy vs times =>
    pure (if times = 0 then .undefined false else vs.getLast?.getD (.undefined false))
  | _ => invalid

/-- A text or list from back to front. -/
def reverse (_ : Mode) (args : List Value) : Except Error Value := do
  let (v, rest) ← Argument.any args
  Argument.done rest
  match v with
  | .string s safe => pure (.string s.reverse safe)
  | .list vs => pure (.lazy vs.reverse 1)
  | .lazy vs times => pure (.lazy vs.reverse times)
  | .map es _ => pure (.lazy (es.map (·.1)).reverse 1)
  | v => if v.isAbsent then pure v else invalid

/-- Without the blanks, or the given characters, at either end. -/
def trim (m : Mode) (args : List Value) : Except Error Value := do
  let (v, rest) ← Argument.textual m args
  let (chars, rest) ← Argument.optionalText rest
  Argument.done rest
  let p := match chars with
    | some cs => fun c => cs.elem c
    | none => Text.isBlank
  pure (.string (trimBy p v.text) v.isSafe)

/-- Whether texts are to be escaped before they are put together. -/
def mixes (m : Mode) (vs : List Value) : Bool := m.escape && vs.any Value.isSafe

/-- Exchanges one text for another. -/
def replace (m : Mode) (args : List Value) : Except Error Value := do
  let (v, rest) ← Argument.textual m args
  let (old, rest) ← Argument.textual m rest
  let (new, rest) ← Argument.textual m rest
  Argument.done rest
  pure <|
    if mixes m [v, old, new] then
      .safeText (Text.replaceAll old.escaped new.escaped v.escaped)
    else .ofText (Text.replaceAll old.text new.text v.text)

/-- The parts of a value in writing, with a separator between them. -/
def joined (m : Mode) (args : List Value) : Except Error Value := do
  let (v, rest) ← Argument.any args
  let (sep, rest) ← Argument.optionalTextual rest
  Argument.done rest
  let sep := sep.getD (.ofText [])
  let vs ← partsOf v
  pure <|
    if mixes m (sep :: vs) then .safeText (Text.joinWith sep.escaped (vs.map Value.escaped))
    else .ofText (Text.joinWith sep.text (vs.map Value.text))

/-- The parts of a value in ascending order. -/
def sort (m : Mode) (args : List Value) : Except Error Value := do
  let (v, rest) ← Argument.value m args
  Argument.done rest
  pure (.list ((← partsOf v).mergeSort inOrder))

/-- Another value in place of an undefined one and, on request, of any that is not true. -/
def default (_ : Mode) (args : List Value) : Except Error Value := do
  let (v, rest) ← Argument.any args
  let (other, rest) := match rest with
    | [] => (.ofText [], [])
    | o :: rest => (o, rest)
  let (wide, rest) ← Argument.optional rest
  Argument.done rest
  if v.isUndefined then pure other
  else pure (if (wide.any Value.truth) && !v.truth then other else v)

/-- A value in markup. -/
def escape (_ : Mode) (args : List Value) : Except Error Value := do
  let (v, rest) ← Argument.any args
  Argument.done rest
  pure (if v.isSafe then v else .safeText v.escaped)

/-- A text with the mark of a safe one. -/
def safe (m : Mode) (args : List Value) : Except Error Value := do
  let (s, rest) ← Argument.text m args
  Argument.done rest
  pure (.safeText s)

/-! ### Functions -/

/-- How many numbers a range may hold. -/
def rangeLimit : Nat := 100000

/-- How many steps lead from `start` to before `stop`. -/
def stepCount (start stop step : Int) : Nat :=
  if 0 < step then ((stop - start + step - 1) / step).toNat
  else ((start - stop - step - 1) / (-step)).toNat

/-- The integers from a first one, or zero, to before a last one, in steps. -/
def range (_ : Mode) (args : List Value) : Except Error Value := do
  let (a, rest) ← Argument.int args
  let (b, rest) ← Argument.optionalInt rest
  let (step, rest) ← Argument.optionalInt rest
  Argument.done rest
  let (start, stop) := match b with
    | some b => (a, b)
    | none => (0, a)
  let step := step.getD 1
  let n := if step = 0 then 0 else stepCount start stop step
  if step = 0 || rangeLimit < n then invalid
  else
    let item (i : Nat) : Value := .int (start + i * step) false
    pure (.lazy ((List.range n).map item) 1)

/-- A map with the entries of another and the arguments by name. -/
def dict (_ : Mode) (args : List Value) : Except Error Value := do
  let (args, keywords) := Argument.keywords args
  let (v, rest) ← Argument.optional args
  Argument.done rest
  let entries ← match v with
    | none => pure []
    | some (.map entries _) => pure entries
    | some _ => invalid
  pure (.map (keywords.foldl (fun es e => Value.insert e.1 e.2 es) entries) false)

/-! ### Names -/

/-- A filter or function that writes no log records. -/
abbrev Plain := Mode → List Value → Except Error Value

/-- The filters by name: a part of those that the language has. -/
def filterTable : List (String × Plain) :=
  [("upper", onText Text.upper), ("lower", onText Text.lower),
    ("capitalize", onText Text.capitalize), ("title", title), ("trim", trim),
    ("replace", replace), ("length", length), ("first", first), ("last", last),
    ("reverse", reverse), ("join", joined), ("sort", sort), ("default", default),
    ("escape", escape), ("e", escape), ("safe", safe)]

/-- The functions by name. The last two can only be named. -/
def functionTable : List (String × Plain) :=
  [("range", range), ("dict", dict), ("debug", fun _ _ => invalid),
    ("namespace", fun _ _ => invalid)]

/-- What a table has under a name. -/
def lookup? (name : Text) (table : List (String × Plain)) : Option Callable :=
  (table.find? (fun p => p.1.toList == name)).map (fun p m args => Run.lift (p.2 m args))

/-- The environment with the filters and functions of the two tables. -/
def environment (strict : Bool) : Environment :=
  { mode := { strict }, filters := (lookup? · filterTable), functions := (lookup? · functionTable) }

end Builtin

end Template

end Tagline
