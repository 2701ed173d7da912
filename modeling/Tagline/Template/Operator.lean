import Tagline.Template.Error
import Tagline.Template.Value

/-!
# Operators of the template language

Integers are computed with 128 bits and a sign, and a result that does not fit these is an
error. So is an operand, except that two wide ones are both taken as signed integers of
the same bits. The truth values count as one and zero. An operation on an integer and a
number of double precision is done in double precision, and so is every division by `/`;
`//` and `%` round so that the remainder of integers is never negative.
-/

namespace Tagline

namespace Template

/-- An operator on two values. -/
inductive Operator where
  | add
  | sub
  | mul
  | div
  | floorDiv
  | rem
  | pow
  | concat
  | eq
  | ne
  | lt
  | le
  | gt
  | ge
  | within
  deriving DecidableEq, Repr

/-- The failure of an operator that does not apply. -/
def invalid {α : Type} : Except Error α := .error { fault := .invalidOperation }

namespace Value

/-- Whether an integer fits 128 bits with a sign. -/
def fits (n : Int) : Bool := -(Int.pow 2 127) ≤ n && n < Int.pow 2 127

/-- A computed integer, which must fit 128 bits. -/
def ofInt (n : Int) : Except Error Value := if fits n then .ok (.int n false) else invalid

/-- Two numbers brought to one form. -/
inductive Pair where
  | ints (a b : Int)
  | floats (a b : Float)

/-- Brings two numbers to one form. -/
def pair? (a b : Value) : Option Pair :=
  match a, b with
  | .float x, _ => b.float?.map (.floats x)
  | _, .float y => a.float?.map (.floats · y)
  | _, _ => do
    let m ← a.int?
    let n ← b.int?
    if a.isWide && b.isWide then pure (.ints (m.bmod (Nat.pow 2 128)) (n.bmod (Nat.pow 2 128)))
    else if fits m && fits n then pure (.ints m n)
    else Option.none

/-- A number of double precision without its fraction. -/
def truncate (x : Float) : Float := if x < 0.0 then x.ceil else x.floor

/-- The remainder of a division that is rounded toward zero. It has the sign of the
dividend and is exact. -/
def floatRem (x y : Float) : Float :=
  match Number.decode x, Number.decode y with
  | .finite negative m p, .finite _ n q =>
    if n = 0 then 0.0 / 0.0
    else
      let e := min p q
      let r := (m * Nat.pow 2 (p - e).toNat) % (n * Nat.pow 2 (q - e).toNat)
      let z := Number.nearest (r * Nat.pow 2 e.toNat) (Nat.pow 2 (-e).toNat)
      if negative then -z else z
  | .finite _ _ _, .infinite _ => x
  | _, _ => 0.0 / 0.0

/-- The quotient for which the remainder is not negative. -/
def floatFloorDiv (x y : Float) : Float :=
  let q := truncate (x / y)
  if floatRem x y < 0.0 then (if 0.0 < y then q - 1.0 else q + 1.0) else q

/-- The number of copies that a value asks for. -/
def count? (v : Value) : Option Nat :=
  (v.index?.filter (fun n => 0 ≤ n && n < Int.pow 2 64)).map Int.toNat

/-- How long a repeated text may be. -/
def textLimit : Nat := 10000000

/-- A text repeated as often as the other operand says. -/
def repeatText (s : Text) (n : Value) : Except Error Value :=
  match n.count? with
  | Option.none => invalid
  | some k =>
    if s.isEmpty then .ok (ofText [])
    else if textLimit < k * s.length then invalid
    else .ok (ofText (Text.copies k s))

/-- A list of given items, repeated as often as the other operand says. -/
def repeatItems (items : List Value) (times : Nat) (n : Value) : Except Error Value :=
  match n.count? with
  | Option.none => invalid
  | some k => .ok (if items.isEmpty then .lazy [] 0 else .lazy items (times * k))

/-- The repetition of a text or list, if one of the operands is such. -/
def repeated? (a b : Value) : Option (Except Error Value) :=
  match a, b with
  | .string s _, n => some (repeatText s n)
  | n, .string s _ => some (repeatText s n)
  | .list xs, n => some (repeatItems xs 1 n)
  | .lazy xs k, n => some (repeatItems xs k n)
  | n, .list xs => some (repeatItems xs 1 n)
  | n, .lazy xs k => some (repeatItems xs k n)
  | _, _ => Option.none

/-- The items of a list of either sort. -/
def items? : Value → Option (List Value)
  | .list xs => some xs
  | .lazy xs k => some (repeatedItems xs k)
  | _ => Option.none

/-- The sum: of numbers, or of two texts or two lists put together. -/
def add (a b : Value) : Except Error Value :=
  match a, b, a.items?, b.items? with
  | .string s _, .string t _, _, _ => .ok (ofText (s ++ t))
  | _, _, some xs, some ys => .ok (.lazy (xs ++ ys) 1)
  | _, _, _, _ =>
    match pair? a b with
    | some (.ints m n) => ofInt (m + n)
    | some (.floats x y) => .ok (.float (x + y))
    | Option.none => invalid

/-- The difference of two numbers. -/
def sub (a b : Value) : Except Error Value :=
  match pair? a b with
  | some (.ints m n) => ofInt (m - n)
  | some (.floats x y) => .ok (.float (x - y))
  | Option.none => invalid

/-- The product of two numbers, or repetition. -/
def mul (a b : Value) : Except Error Value :=
  match repeated? a b with
  | some r => r
  | Option.none =>
    match pair? a b with
    | some (.ints m n) => ofInt (m * n)
    | some (.floats x y) => .ok (.float (x * y))
    | Option.none => invalid

/-- The quotient in double precision. -/
def div (a b : Value) : Except Error Value :=
  match a.float?, b.float? with
  | some x, some y => .ok (.float (x / y))
  | _, _ => invalid

/-- The whole quotient. -/
def floorDiv (a b : Value) : Except Error Value :=
  match pair? a b with
  | some (.ints m n) => if n = 0 then invalid else ofInt (Int.ediv m n)
  | some (.floats x y) => .ok (.float (floatFloorDiv x y))
  | Option.none => invalid

/-- The remainder. -/
def rem (a b : Value) : Except Error Value :=
  match pair? a b with
  | some (.ints m n) =>
    -- There is no remainder where there is no quotient.
    if n = 0 || !fits (Int.ediv m n) then invalid else ofInt (Int.emod m n)
  | some (.floats x y) => .ok (.float (floatRem x y))
  | Option.none => invalid

/-- The power of an integer, if it fits. A base above one need not be raised further than
127 times to see that it does not. -/
def intPow (m : Int) (n : Nat) : Except Error Value :=
  if m.natAbs ≤ 1 then ofInt (if n = 0 then 1 else if n % 2 = 0 then m * m else m)
  else if 127 < n then invalid
  else ofInt (Int.pow m n)

/-- The power. An integer has no negative one. -/
def pow (a b : Value) : Except Error Value :=
  match pair? a b with
  | some (.ints m n) => if n < 0 || Int.pow 2 32 ≤ n then invalid else intPow m n.toNat
  | some (.floats x y) => .ok (.float (x.pow y))
  | Option.none => invalid

/-- Whether a value is part of another: a text inside a text, an item of a list, or a key
of a map. -/
def within (v container : Value) : Except Error Value :=
  match container with
  | .undefined _ => .ok (.bool false)
  | .string s _ => .ok (.bool (Text.occursIn v.text s))
  | .list items => .ok (.bool (items.any (same · v)))
  | .lazy items times => .ok (.bool (times != 0 && items.any (same · v)))
  | .map entries _ => .ok (.bool (find? v entries).isSome)
  | .function _ => .ok (.bool false)
  | _ => invalid

/-- The negative of a number. The integer `2 ^ 127` that was written down stays as it is. -/
def neg : Value → Except Error Value
  | .float x => .ok (.float (-x))
  | .int n unsigned =>
    if unsigned && n = Int.pow 2 127 then .ok (.int n true)
    else if fits n then ofInt (-n)
    else invalid
  | _ => invalid

/-- Applies an operator. -/
def apply (o : Operator) (a b : Value) : Except Error Value :=
  match o with
  | .add => add a b
  | .sub => sub a b
  | .mul => mul a b
  | .div => div a b
  | .floorDiv => floorDiv a b
  | .rem => rem a b
  | .pow => pow a b
  | .concat => .ok (ofText (a.text ++ b.text))
  | .eq => .ok (.bool (same a b))
  | .ne => .ok (.bool !(same a b))
  | .lt => .ok (.bool (compare a b == .lt))
  | .le => .ok (.bool (compare a b != .gt))
  | .gt => .ok (.bool (compare a b == .gt))
  | .ge => .ok (.bool (compare a b != .lt))
  | .within => within a b

end Value

end Template

end Tagline
