import Tagline.Json.Value
import Tagline.Number.Double
import Tagline.Text.Quoted

/-!
# Values of the template language

An expression of the template language has a value of one of these kinds. An integer is
*unsigned* if it was written down and *signed* if it was computed, and has 64 bits or,
where these do not suffice, 128. A text may be marked as *safe*, which keeps it from being
escaped. A *lazy* list is known by its items and how often they are repeated, and differs
from a list in its kind only. A map may be made of keyword arguments.

* `Value.text` is a value in writing and `Value.inner` the same inside a list or map,
  where texts are quoted and numbers of double precision may have an exponent.
* `Value.truth`, `Value.same` and `Value.compare` are its truth value, equality and
  order.
-/

namespace Tagline

namespace Template

/-- The kind of a value, in the order in which values of different kinds compare. An engine may
have values of two kinds that no `Value` has: a text of bytes, and a failure that is kept as a
value. -/
inductive Kind where
  | undefined
  | none
  | bool
  | number
  | string
  | bytes
  | seq
  | map
  | iterable
  | plain
  | invalid
  deriving DecidableEq, Repr

/-- The name of a kind. -/
def Kind.name : Kind → Text
  | .undefined => "Undefined".toList
  | .none => "None".toList
  | .bool => "Bool".toList
  | .number => "Number".toList
  | .string => "String".toList
  | .bytes => "Bytes".toList
  | .seq => "Seq".toList
  | .map => "Map".toList
  | .iterable => "Iterable".toList
  | .plain => "Plain".toList
  | .invalid => "Invalid".toList

/-- The place of a kind in the order of kinds. -/
def Kind.rank : Kind → Nat
  | .undefined => 0
  | .none => 1
  | .bool => 2
  | .number => 3
  | .string => 4
  | .bytes => 5
  | .seq => 6
  | .map => 7
  | .iterable => 8
  | .plain => 9
  | .invalid => 10

/-- A value. -/
inductive Value where
  /-- Nothing is defined. A silent one comes from a branch that is left out, and may be
  used even where undefined values are errors. -/
  | undefined (silent : Bool)
  | none
  | bool (b : Bool)
  | int (n : Int) (unsigned : Bool)
  | float (x : Float)
  | string (s : Text) (safe : Bool)
  | list (items : List Value)
  | lazy (items : List Value) (times : Nat)
  | map (entries : List (Value × Value)) (keywords : Bool)
  | function (name : Text)
  deriving Repr

namespace Value

/-- A text that may be escaped. -/
def ofText (s : Text) : Value := .string s false

/-- A text that is never escaped. -/
def safeText (s : Text) : Value := .string s true

/-- The kind of a value. -/
def kind : Value → Kind
  | .undefined _ => .undefined
  | .none => .none
  | .bool _ => .bool
  | .int _ _ => .number
  | .float _ => .number
  | .string _ _ => .string
  | .list _ => .seq
  | .lazy _ _ => .iterable
  | .map _ _ => .map
  | .function _ => .plain

/-- Whether nothing is defined. -/
def isUndefined : Value → Bool
  | .undefined _ => true
  | _ => false

/-- Whether nothing is defined and no branch was left out on purpose. -/
def isUnset : Value → Bool
  | .undefined silent => !silent
  | _ => false

/-- Whether a value is missing: undefined or none. -/
def isAbsent : Value → Bool
  | .undefined _ => true
  | .none => true
  | _ => false

/-- Whether a text is marked as safe. -/
def isSafe : Value → Bool
  | .string _ safe => safe
  | _ => false

/-- The items of a lazy list. -/
def repeatedItems (items : List Value) (times : Nat) : List Value :=
  (List.replicate times items).flatten

/-- The first parts of a list, each of `n` items or what is left. -/
def cut (n : Nat) : (parts : Nat) → List Value → List (List Value)
  | 0, _ => []
  | k + 1, vs => vs.take n :: cut n k (vs.drop n)

/-! ### From data -/

mutual

/-- The value of a piece of data. -/
def ofJson : Json → Value
  | .null => .none
  | .bool b => .bool b
  | .int n => .int n (0 ≤ n)
  | .float x => .float x
  | .string s => .string s false
  | .array items => .list (ofItems items)
  | .object members => .map (ofMembers members) false

/-- The values of the items of an array. -/
def ofItems : List Json → List Value
  | [] => []
  | j :: js => ofJson j :: ofItems js

/-- The entries of an object. -/
def ofMembers : List (Text × Json) → List (Value × Value)
  | [] => []
  | (k, j) :: ms => (.string k false, ofJson j) :: ofMembers ms

end

/-! ### In writing -/

/-- Numbers of double precision: always positional, with at least one decimal. -/
def floatLayout : Number.Layout where
  positional := Option.none
  tie := .upward
  infinity := "inf".toList
  minusInfinity := "-inf".toList
  nan := "NaN".toList

/-- Numbers of double precision inside a list or map: with an exponent from `1e16` on and
below `0.0001`. -/
def innerFloatLayout : Number.Layout := { floatLayout with positional := some (-3, 16) }

/-- A truth value in writing. -/
def boolText (b : Bool) : Text := if b then "True".toList else "False".toList

mutual

/-- A value inside a list or map: texts are quoted. -/
def inner : Value → Text
  | .undefined _ => "undefined".toList
  | .none => "None".toList
  | .bool b => boolText b
  | .int n _ => Number.intText n
  | .float x => Number.doubleText innerFloatLayout x
  | .string s _ => Text.quoted s
  | .list items => '[' :: Text.joinWith ", ".toList (innerItems items) ++ [']']
  | .lazy items times =>
    '[' :: Text.joinWith ", ".toList (List.replicate times (innerItems items)).flatten ++ [']']
  | .map entries _ => '\x7b' :: Text.joinWith ", ".toList (innerEntries entries) ++ ['\x7d']
  | .function name => name

/-- The items of a list. -/
def innerItems : List Value → List Text
  | [] => []
  | v :: vs => inner v :: innerItems vs

/-- The entries of a map. -/
def innerEntries : List (Value × Value) → List Text
  | [] => []
  | (k, v) :: es => (inner k ++ ": ".toList ++ inner v) :: innerEntries es

end

/-- A value in writing. An undefined one is empty. -/
def text : Value → Text
  | .undefined _ => []
  | .string s _ => s
  | .float x => Number.doubleText floatLayout x
  | v => inner v

/-! ### Truth -/

/-- Whether a value counts as true: everything but nothing, zero and what is empty. -/
def truth : Value → Bool
  | .undefined _ => false
  | .none => false
  | .bool b => b
  | .int n _ => n != 0
  | .float x => x != 0.0
  | .string s _ => !s.isEmpty
  | .list items => !items.isEmpty
  | .lazy items times => times != 0 && !items.isEmpty
  | .map entries _ => !entries.isEmpty
  | .function _ => true

/-! ### Numbers -/

/-- The integer that a number of double precision is, if it is one. -/
def wholeNumber? (x : Float) : Option Int :=
  match Number.decode x with
  | .finite negative m q =>
    let n : Option Nat :=
      if 0 ≤ q then some (m * Nat.pow 2 q.toNat)
      else if m % Nat.pow 2 q.natAbs = 0 then some (m / Nat.pow 2 q.natAbs)
      else Option.none
    n.map (fun k => if negative then -(k : Int) else k)
  | _ => Option.none

/-- The integer that a value stands for: itself, or one and zero for the truth values. -/
def int? : Value → Option Int
  | .int n _ => some n
  | .bool b => some (if b then 1 else 0)
  | _ => Option.none

/-- The integer that a value can be used as. -/
def index? : Value → Option Int
  | .float x => wholeNumber? x
  | v => v.int?

/-- The number of double precision that is nearest to a value. -/
def float? : Value → Option Float
  | .float x => some x
  | v => v.int?.map Number.ofInt

/-- Whether an integer needs all 128 bits of the unsigned form. -/
def isWide : Value → Bool
  | .int n unsigned => unsigned && Int.pow 2 64 ≤ n
  | _ => false

/-- The least and the largest integer of the form that an integer has. -/
def formRange (n : Int) (unsigned : Bool) : Int × Int :=
  if unsigned then (0, if n < Int.pow 2 64 then Int.pow 2 64 - 1 else Int.pow 2 128 - 1)
  else if -(Int.pow 2 63) ≤ n && n < Int.pow 2 63 then (-(Int.pow 2 63), Int.pow 2 63 - 1)
  else (-(Int.pow 2 127), Int.pow 2 127 - 1)

/-- The number of double precision that an integer is: one from which it comes back, where
what lies outside the range of its form counts as the end of the range. -/
def exactFloat? : Value → Option Float
  | .float x => some x
  | .bool b => some (if b then 1.0 else 0.0)
  | .int n unsigned =>
    let x := Number.ofInt n
    let (low, high) := formRange n unsigned
    if (wholeNumber? x).any (fun m => max low (min m high) == n) then some x else Option.none
  | _ => Option.none

/-- The place of a number of double precision in the order of all of them: the negative zero
comes before the positive one, and what is not a number before all others. -/
def floatRank (x : Float) : Int :=
  let bits := x.toBits.toNat
  if x.isNaN then -(Int.pow 2 64)
  else if bits < Nat.pow 2 63 then bits
  else -((bits - Nat.pow 2 63 : Nat) : Int) - 1

/-- Compares an integer with a number of double precision exactly. -/
def compareIntFloat (n : Int) (x : Float) : Ordering :=
  match Number.decode x with
  | .nan => .gt
  | .infinite negative => if negative then .gt else .lt
  | .finite negative m q =>
    let k : Int := m * Int.pow 2 q.toNat
    Ord.compare (n * Int.pow 2 (-q).toNat) (if negative then -k else k)

/-- Compares two numbers. Two wide integers are taken as signed ones of the same bits. -/
def compareNumbers (a b : Value) : Ordering :=
  match a.int?, b.int? with
  | some m, some n =>
    if a.isWide && b.isWide then Ord.compare (m.bmod (Nat.pow 2 128)) (n.bmod (Nat.pow 2 128))
    else Ord.compare m n
  | some m, Option.none =>
    let y := b.float?.getD 0.0
    match a.exactFloat? with
    | some x => Ord.compare (floatRank x) (floatRank y)
    | Option.none => compareIntFloat m y
  | Option.none, some n =>
    let x := a.float?.getD 0.0
    match b.exactFloat? with
    | some y => Ord.compare (floatRank x) (floatRank y)
    | Option.none => (compareIntFloat n x).swap
  | Option.none, Option.none =>
    Ord.compare (floatRank (a.float?.getD 0.0)) (floatRank (b.float?.getD 0.0))

/-- Whether two numbers are equal. An integer equals a number of double precision only if it
is one. -/
def sameNumbers (a b : Value) : Bool :=
  match a.int?, b.int? with
  | some m, some n => m == n
  | _, _ =>
    match a.exactFloat?, b.exactFloat? with
    | some x, some y => x == y
    | _, _ => false

/-! ### Equality and order -/

mutual

/-- Whether two values are equal. Safe marks do not matter, nor whether a list is lazy. -/
def same : Value → Value → Bool
  | .undefined _, .undefined _ => true
  | .none, .none => true
  | .string a _, .string b _ => a == b
  | .list as, .list bs => sameItems as bs
  | .list as, .lazy bs l => as.length == bs.length * l && sameItems as (repeatedItems bs l)
  | .lazy as k, .list bs =>
    as.length * k == bs.length && (cut as.length k bs).all (sameItems as ·)
  | .lazy as k, .lazy bs l =>
    as.length * k == bs.length * l &&
      (cut as.length k (repeatedItems bs l)).all (sameItems as ·)
  | .map as _, .map bs _ => as.length == bs.length && sameEntries as bs
  | .function a, .function b => a == b
  | a, b => sameNumbers a b

/-- Whether two lists of values are equal. -/
def sameItems : List Value → List Value → Bool
  | [], [] => true
  | a :: as, b :: bs => same a b && sameItems as bs
  | _, _ => false

/-- Whether every entry of the first list is an entry of the second. -/
def sameEntries : List (Value × Value) → List (Value × Value) → Bool
  | [], _ => true
  | (k, v) :: as, bs => bs.any (fun b => same k b.1 && same v b.2) && sameEntries as bs

end

mutual

/-- Compares two values: by kind, and then by what they hold. -/
def compare : Value → Value → Ordering
  | .string a _, .string b _ => Text.compare a b
  | .list as, .list bs => compareItems as bs
  | .lazy as k, .lazy bs l =>
    let order : Ordering := (cut as.length k (repeatedItems bs l)).foldl
      (fun (o : Ordering) b => o.then (compareItems as b)) .eq
    -- The shorter of two lists that agree comes first.
    order.then (if as.length * k < bs.length * l then .lt else .eq)
  | .map as _, .map bs _ => compareEntries as bs
  | .function a, .function b => Text.compare a b
  | a, b =>
    match Ord.compare a.kind.rank b.kind.rank with
    | .eq => compareNumbers a b
    | o => o

/-- Compares two lists item by item. -/
def compareItems : List Value → List Value → Ordering
  | [], [] => .eq
  | [], _ :: _ => .lt
  | _ :: _, [] => .gt
  | a :: as, b :: bs => (compare a b).then (compareItems as bs)

/-- Compares two maps entry by entry. -/
def compareEntries : List (Value × Value) → List (Value × Value) → Ordering
  | [], [] => .eq
  | [], _ :: _ => .lt
  | _ :: _, [] => .gt
  | (k, v) :: as, (l, w) :: bs =>
    ((compare k l).then (compare v w)).then (compareEntries as bs)

end

/-! ### Parts -/

/-- The value under a key of a map. -/
def find? (k : Value) (entries : List (Value × Value)) : Option Value :=
  (entries.find? (fun e => same k e.1)).map (·.2)

/-- Puts a value under a key: in the place of the old one, or else at the end. -/
def insert (k v : Value) : List (Value × Value) → List (Value × Value)
  | [] => [(k, v)]
  | (l, w) :: es => if same k l then (l, v) :: es else (l, w) :: insert k v es

/-- The place that a whole number means in a sequence of the given length: a negative one
counts from the end. -/
def position? (length : Nat) (i : Int) : Option Nat :=
  if 0 ≤ i then some i.toNat
  else if i.natAbs ≤ length then some (length - i.natAbs)
  else Option.none

/-- The part of a value at a key: an item of a list, a character of a text, or the value
under a key of a map. -/
def item? (v key : Value) : Option Value :=
  match v with
  | .map entries _ => find? key entries
  | .list items => do items[← position? items.length (← key.index?)]?
  | .lazy items times => do
    let i ← position? (items.length * times) (← key.index?)
    if i < items.length * times then items[i % items.length]? else Option.none
  | .string s _ => do
    let c ← s[← position? s.length (← key.index?)]?
    pure (ofText [c])
  | _ => Option.none

/-- The parts that a value is walked through by: the items of a list, the keys of a map, the
characters of a text, and none at all of what is missing. -/
def parts? : Value → Option (List Value)
  | .undefined _ => some []
  | .none => some []
  | .string s _ => some (s.map fun c => ofText [c])
  | .list items => some items
  | .lazy items times => some (repeatedItems items times)
  | .map entries _ => some (entries.map (·.1))
  | _ => Option.none

/-- How many parts a value has. -/
def length? : Value → Option Nat
  | .string s _ => some s.length
  | .list items => some items.length
  | .lazy items times => some (items.length * times)
  | .map entries _ => some entries.length
  | _ => Option.none

end Value

end Template

end Tagline
