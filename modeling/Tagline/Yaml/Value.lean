import Tagline.Number.Double
import Tagline.Yaml.Node

/-!
# The values of a YAML document

A node has a value: a tree of scalars, sequences and mappings in which the aliases
are replaced by what they stand for. A plain scalar without a tag has the type that
its text shows (`Yaml.Value.ofPlain`); a scalar in quotes or in a block is a string.

A mapping with one key twice has no value, nor has a document whose collections are
nested more than 128 deep. The latter also rejects an alias that stands inside the
node it refers to. Aliases may repeat only so much: while the value is formed, at most a
hundred times as many of them may be met as the document is long (`Yaml.jumpLimit`).
-/

namespace Tagline

namespace Yaml

/-- The value of a node. -/
inductive Value where
  | null
  | bool (b : Bool)
  | int (n : Int)
  | float (x : Float)
  | string (s : Text)
  | sequence (items : List Value)
  | mapping (entries : List (Value × Value))
  | tagged (tag : Text) (v : Value)
  deriving Repr

/-! ### Scalars -/

/-- The words for nothing. -/
def isNull (s : Text) : Bool :=
  s == "null".toList || s == "Null".toList || s == "NULL".toList || s == "~".toList

/-- The words for the truth values. -/
def bool? (s : Text) : Option Bool :=
  if s == "true".toList || s == "True".toList || s == "TRUE".toList then some true
  else if s == "false".toList || s == "False".toList || s == "FALSE".toList then some false
  else none

/-- Without a sign at the front. -/
def dropSign : Text → Text
  | '-' :: s => s
  | '+' :: s => s
  | s => s

/-- Whether a text is made of digits with a superfluous zero in front, which makes it a
string and no number. -/
def hasLeadingZero (s : Text) : Bool :=
  match dropSign s with
  | '0' :: c :: r => (c :: r).all Number.isDigit
  | _ => false

/-- Reads digits after `0x`, `0o` or `0b`. -/
def readBased? : Text → Option Nat
  | '0' :: 'x' :: s => Number.readNat? 16 s
  | '0' :: 'o' :: s => Number.readNat? 8 s
  | '0' :: 'b' :: s => Number.readNat? 2 s
  | _ => none

/-- Reads an integer of any size: an optional sign, and decimal digits or digits after
`0x`, `0o` or `0b`. -/
def int? (s : Text) : Option Int :=
  let read (r : Text) : Option Nat :=
    (readBased? r).or (if hasLeadingZero s then none else Number.readNat? 10 r)
  match s with
  | '-' :: r => (read r).map (fun n => -(n : Int))
  | '+' :: r => (read r).map Int.ofNat
  | r => (read r).map Int.ofNat

/-- Whether an integer is in the range of values. -/
def isSmall (n : Int) : Bool := -(Int.pow 2 63) ≤ n && n < Int.pow 2 64

/-- Whether an integer is beyond the range of values but within 128 bits. -/
def isMedium (n : Int) : Bool := !isSmall n && -(Int.pow 2 127) ≤ n && n < Int.pow 2 128

/-- Reads a number with a point or an exponent, or a word for an infinity or for no
number. A decimal number that is too large is none. -/
def float? (s : Text) : Option Float :=
  let positive := match s with
    | '+' :: r => r
    | r => r
  if s.head? == some '+' && (positive.head? == some '+' || positive.head? == some '-') then none
  else if positive == ".inf".toList || positive == ".Inf".toList || positive == ".INF".toList then
    some (1.0 / 0.0)
  else if s == "-.inf".toList || s == "-.Inf".toList || s == "-.INF".toList then
    some (-1.0 / 0.0)
  else if s == ".nan".toList || s == ".NaN".toList || s == ".NAN".toList then some (0.0 / 0.0)
  else (Number.readFloat? positive).filter Float.isFinite

/-- The value of a plain scalar. -/
def Value.ofPlain (s : Text) : Except Error Value :=
  if s.isEmpty || isNull s then .ok .null
  else match bool? s with
    | some b => .ok (.bool b)
    | none =>
      match (int? s).filter (fun n => isSmall n || isMedium n) with
      | some n => if isSmall n then .ok (.int n) else .error .invalidScalar
      | none =>
        match if hasLeadingZero s then none else float? s with
        | some x => .ok (.float x)
        | none => .ok (.string s)

/-- The name of a type of the core schema. -/
def coreTag (name : String) : Text := "tag:yaml.org,2002:".toList ++ name.toList

/-- The value of a scalar with a tag that asks for a type. -/
def Value.ofTyped (tag s : Text) : Except Error Value :=
  if tag == coreTag "bool" then
    match bool? s with
    | some b => .ok (.bool b)
    | none => .error .invalidScalar
  else if tag == coreTag "int" then
    match (int? s).filter isSmall with
    | some n => .ok (.int n)
    | none => .error .invalidScalar
  else if tag == coreTag "float" then
    match float? s with
    | some x => .ok (.float x)
    | none => .error .invalidScalar
  else if tag == coreTag "null" then
    if isNull s then .ok .null else .error .invalidScalar
  else .ok (.string s)

/-- The value of a scalar without regard to a tag of the document's own. -/
def Value.ofScalar (tag : Option Text) (style : Style) (s : Text) : Except Error Value :=
  match tag with
  | some t => Value.ofTyped t s
  | none => if style == .plain then Value.ofPlain s else .ok (.string s)

/-! ### Equality of keys -/

mutual

/-- Whether two values are the same as keys. The order of a mapping does not matter. -/
def Value.same : Value → Value → Bool
  | .null, .null => true
  | .bool a, .bool b => a == b
  | .int a, .int b => a == b
  | .float a, .float b => a == b || (a.isNaN && b.isNaN)
  | .string a, .string b => a == b
  | .sequence as, .sequence bs => Value.sameItems as bs
  | .mapping as, .mapping bs => as.length == bs.length && Value.sameEntries as bs
  | .tagged s a, .tagged t b => s == t && Value.same a b
  | _, _ => false

/-- Whether two lists of values are the same. -/
def Value.sameItems : List Value → List Value → Bool
  | [], [] => true
  | a :: as, b :: bs => Value.same a b && Value.sameItems as bs
  | _, _ => false

/-- Whether every entry of the first list is an entry of the second. -/
def Value.sameEntries : List (Value × Value) → List (Value × Value) → Bool
  | [], _ => true
  | (k, v) :: as, bs =>
    bs.any (fun b => Value.same k b.1 && Value.same v b.2) && Value.sameEntries as bs

end

/-- The entry of a mapping under a key. -/
def Value.find? (k : Value) (entries : List (Value × Value)) : Option Value :=
  (entries.find? (fun e => Value.same k e.1)).map (·.2)

/-! ### Nodes -/

/-- A tag of the document's own, which makes a tagged value. -/
def ownTag? : Option Text → Option Text
  | some ('!' :: name) => some name
  | _ => none

/-- Wraps a value in a tag of the document's own. -/
def wrap (tag : Option Text) (v : Value) : Value :=
  match tag with
  | none => v
  | some name => .tagged name v

/-- A computation that follows aliases, as often as its state allows. -/
abbrev Following := StateT Nat (Except Error)

/-- Follows an alias. -/
def jump : Following Unit := do
  let left ← get
  if left = 0 then throw .tooManyAliases
  set (left - 1)

/-- The values of a list of nodes, in order. -/
def valuesWith (f : Node → Following Value) : List Node → Following (List Value)
  | [] => pure []
  | n :: ns => do
    let v ← f n
    let vs ← valuesWith f ns
    return v :: vs

/-- The entries of a mapping, added one by one to `done`. -/
def entriesWith (f : Node → Following Value) (done : List (Value × Value)) :
    List (Node × Node) → Following (List (Value × Value))
  | [] => pure done
  | (k, v) :: es => do
    let key ← f k
    -- A key that is there already is rejected before its value is looked at.
    if (Value.find? key done).isSome then throw .duplicateKey
    let value ← f v
    entriesWith f (done ++ [(key, value)]) es

/-- The node that a node stands for. -/
def follow (anchors : List (Nat × Node)) (n : Node) : Following Node :=
  match n with
  | .alias k => do
    jump
    return (anchors.lookup k).getD n
  | n => pure n

/-- The value of a scalar with any tag. -/
def Value.ofTagged (tag : Option Text) (style : Style) (s : Text) : Except Error Value :=
  match ownTag? tag with
  | some name => do
    let v ← if style == .plain then Value.ofPlain s else pure (.string s)
    return wrap (some name) v
  | none => Value.ofScalar tag style s

/-- The value of a node, with at most `depth` collections inside each other. -/
def Value.ofNode (anchors : List (Nat × Node)) : (depth : Nat) → Node → Following Value
  | 0, n => do
    match ← follow anchors n with
    | .scalar tag style s => Value.ofTagged tag style s
    | .alias _ => throw .unknownAlias
    | _ => throw .tooDeep
  | depth + 1, n => do
    match ← follow anchors n with
    | .scalar tag style s => Value.ofTagged tag style s
    | .alias _ => throw .unknownAlias
    | .sequence tag ns =>
      let vs ← valuesWith (Value.ofNode anchors depth) ns
      return wrap (ownTag? tag) (.sequence vs)
    | .mapping tag es =>
      let es ← entriesWith (Value.ofNode anchors depth) [] es
      return wrap (ownTag? tag) (.mapping es)

/-- How many collections may stand inside each other. -/
def depthLimit : Nat := 128

/-- How many aliases may be met while the value of a node is formed. -/
def jumpLimit (n : Node) : Nat := 100 * n.size

/-- The value of a text. A text without a document is null. -/
def Value.ofText (s : Text) : Except Error Value := do
  let d ← document s
  match d.root with
  | none => pure .null
  | some n => (Value.ofNode d.anchors depthLimit n).run' (jumpLimit n)

/-! ### Values in writing -/

/-- Numbers of double precision in YAML: with an exponent when the decimal point is more
than sixteen digits to the right of the first digit or more than four to the left. -/
def floatLayout : Number.Layout where
  positional := some (-4, 16)
  tie := .toEven
  infinity := ".inf".toList
  minusInfinity := "-.inf".toList
  nan := ".nan".toList

/-- A number in writing. -/
def floatText (x : Float) : Text := Number.doubleText floatLayout x

/-- A truth value in writing. -/
def boolText (b : Bool) : Text := if b then "true".toList else "false".toList

mutual

/-- A value as a log message shows it: the name of its kind and its content. -/
def Value.describe : Value → Text
  | .null => "Null".toList
  | .bool b => "Bool(".toList ++ boolText b ++ [')']
  | .int n => "Number(".toList ++ Number.intText n ++ [')']
  | .float x => "Number(".toList ++ floatText x ++ [')']
  | .string s => "String(".toList ++ Text.quoted s ++ [')']
  | .sequence vs => "Sequence [".toList ++ Value.describeItems vs ++ [']']
  | .mapping es => "Mapping \x7b".toList ++ Value.describeEntries es ++ ['\x7d']
  | .tagged t v =>
    "TaggedValue \x7b tag: !".toList ++ t ++ ", value: ".toList ++ Value.describe v ++
      " \x7d".toList

/-- Values with commas between them. -/
def Value.describeItems : List Value → Text
  | [] => []
  | [v] => Value.describe v
  | v :: vs => Value.describe v ++ ", ".toList ++ Value.describeItems vs

/-- Entries with commas between them. A scalar key shows its content only. -/
def Value.describeEntries : List (Value × Value) → Text
  | [] => []
  | [(k, v)] => Value.describeKey k ++ ": ".toList ++ Value.describe v
  | (k, v) :: es =>
    Value.describeKey k ++ ": ".toList ++ Value.describe v ++ ", ".toList ++
      Value.describeEntries es

/-- A key: a scalar without the name of its kind. -/
def Value.describeKey : Value → Text
  | .bool b => boolText b
  | .int n => Number.intText n
  | .float x => floatText x
  | .string s => Text.quoted s
  | .null => "Null".toList
  | .sequence vs => "Sequence [".toList ++ Value.describeItems vs ++ [']']
  | .mapping es => "Mapping \x7b".toList ++ Value.describeEntries es ++ ['\x7d']
  | .tagged t v =>
    "TaggedValue \x7b tag: !".toList ++ t ++ ", value: ".toList ++ Value.describe v ++
      " \x7d".toList

end

end Yaml

end Tagline
