import Tagline.Json.Value
import Tagline.Number.Double

/-!
# Reading JSON

A strict reader: no text after the value, no comma after the last item, no zero in front
of other digits, no bare control characters in a string, and no half of a surrogate pair.
Collections may be nested 127 deep.

A whole number that fits 64 bits is an integer. Any other number is taken as its first
digits, as many as fit 64 bits, scaled by a power of ten in double precision; one that is
too large has no value.
-/

namespace Tagline

namespace Json

/-- Without white space at the front. -/
def skipSpace (s : Text) : Text :=
  s.dropWhile (fun c => c == ' ' || c == '\n' || c == '\t' || c == '\r')

/-! ### Strings -/

/-- The character that a backslash and a letter stand for. -/
def escape? : Char → Option Char
  | '"' => some '"'
  | '\\' => some '\\'
  | '/' => some '/'
  | 'b' => some '\x08'
  | 'f' => some '\x0c'
  | 'n' => some '\n'
  | 'r' => some '\r'
  | 't' => some '\t'
  | _ => none

/-- Whether a number is the first half of a surrogate pair. -/
def isHighSurrogate (n : Nat) : Bool := 0xD800 ≤ n && n ≤ 0xDBFF

/-- Whether a number is the second half of a surrogate pair. -/
def isLowSurrogate (n : Nat) : Bool := 0xDC00 ≤ n && n ≤ 0xDFFF

/-- The character of a surrogate pair. -/
def joinSurrogates (high low : Nat) : Char :=
  Char.ofNat (0x10000 + (high - 0xD800) * 0x400 + (low - 0xDC00))

/-- Puts a character at the front of a string that was read. -/
def cons (c : Char) (r : Text × Text) : Text × Text := (c :: r.1, r.2)

/-- Reads a string after the opening quote and gives it with the rest. -/
def stringFrom : Text → Option (Text × Text)
  | [] => none
  | '"' :: s => some ([], s)
  | '\\' :: 'u' :: a :: b :: c :: d :: s =>
    match Number.readNat? 16 [a, b, c, d] with
    | none => none
    | some n =>
      if isHighSurrogate n then
        match s with
        | '\\' :: 'u' :: a' :: b' :: c' :: d' :: s =>
          match (Number.readNat? 16 [a', b', c', d']).filter isLowSurrogate with
          | some m => (stringFrom s).map (cons (joinSurrogates n m))
          | none => none
        | _ => none
      else if isLowSurrogate n then none
      else (stringFrom s).map (cons (Char.ofNat n))
  | '\\' :: c :: s =>
    match escape? c with
    | some d => (stringFrom s).map (cons d)
    | none => none
  | c :: s => if c.toNat < 0x20 || c == '\\' then none else (stringFrom s).map (cons c)

/-! ### Numbers -/

/-- The largest coefficient. -/
def coefficientLimit : Nat := Nat.pow 2 64 - 1

/-- Takes digits into a coefficient while it fits, and gives what is left over. -/
def takeDigits (acc : Nat) : Text → Nat × Text
  | [] => (acc, [])
  | c :: s =>
    match Number.digitIn? 10 c with
    | some d =>
      if coefficientLimit < acc * 10 + d then (acc, c :: s) else takeDigits (acc * 10 + d) s
    | none => (acc, c :: s)

/-- A power of ten in double precision. -/
def powerOfTen (n : Nat) : Float := Number.nearest (Nat.pow 10 n) 1

/-- Divides by powers of ten until the exponent is small enough for one more step. -/
def scaleDown (x : Float) : (fuel : Nat) → (e : Nat) → Float
  | 0, _ => x
  | fuel + 1, e =>
    if e ≤ 308 then x / powerOfTen e
    else if x == 0.0 then x
    else scaleDown (x / powerOfTen 308) fuel (e - 308)

/-- The number `coefficient * 10 ^ e` in double precision, if it is not too large. -/
def scale? (coefficient : Nat) (e : Int) : Option Float :=
  let x := Number.nearest coefficient 1
  if e < 0 then some (scaleDown x 8 e.natAbs)
  else if e ≤ 308 then (some (x * powerOfTen e.toNat)).filter Float.isFinite
  else if coefficient = 0 then some x
  else none

/-- Reads an exponent after its letter and gives it with the rest. -/
def exponentFrom (s : Text) : Option (Int × Text) :=
  let (negative, s) := match s with
    | '-' :: r => (true, r)
    | '+' :: r => (false, r)
    | r => (false, r)
  let digits := s.takeWhile Number.isDigit
  if digits.isEmpty then none
  else
    let n := Number.decimalValue digits
    some (if negative then -(n : Int) else n, s.dropWhile Number.isDigit)

/-- Finishes a number that is not an integer: an optional exponent after the digits. -/
def finishFloat (negative : Bool) (coefficient : Nat) (e : Int) (s : Text) :
    Option (Json × Text) := do
  let (more, s) ← match s with
    | 'e' :: r => exponentFrom r
    | 'E' :: r => exponentFrom r
    | r => some (0, r)
  let x ← scale? coefficient (e + more)
  pure (.float (if negative then -x else x), s)

/-- Reads a number after its sign and gives it with the rest. -/
def numberFrom (negative : Bool) (s : Text) : Option (Json × Text) :=
  let whole := s.takeWhile Number.isDigit
  if whole.isEmpty || (whole.head? == some '0' && 1 < whole.length) then none
  else
    let (coefficient, left) := takeDigits 0 whole
    match s.dropWhile Number.isDigit with
    | '.' :: r =>
      let fraction := r.takeWhile Number.isDigit
      if fraction.isEmpty then none
      else
        let (coefficient, unread) := takeDigits coefficient fraction
        finishFloat negative coefficient (left.length + unread.length - fraction.length)
          (r.dropWhile Number.isDigit)
    | 'e' :: r => finishFloat negative coefficient left.length ('e' :: r)
    | 'E' :: r => finishFloat negative coefficient left.length ('E' :: r)
    | r =>
      -- An integer that does not fit, and a negative zero, are of double precision.
      if !left.isEmpty then finishFloat negative coefficient left.length r
      else if !negative then some (.int coefficient, r)
      else if coefficient == 0 || Nat.pow 2 63 < coefficient then
        some (.float (-Number.nearest coefficient 1), r)
      else some (.int (-(coefficient : Int)), r)

/-! ### Values -/

mutual

/-- Reads a value, inside of which `depth` collections may be nested, and gives it with the
rest. -/
def valueFrom (depth : Nat) : (fuel : Nat) → Text → Option (Json × Text)
  | 0, _ => none
  | fuel + 1, s =>
    match skipSpace s with
    | 'n' :: 'u' :: 'l' :: 'l' :: r => some (.null, r)
    | 't' :: 'r' :: 'u' :: 'e' :: r => some (.bool true, r)
    | 'f' :: 'a' :: 'l' :: 's' :: 'e' :: r => some (.bool false, r)
    | '"' :: r => (stringFrom r).map (fun p => (.string p.1, p.2))
    | '-' :: r => numberFrom true r
    | '[' :: r =>
      if depth = 0 then none
      else match skipSpace r with
        | ']' :: r => some (.array [], r)
        | r => (itemsFrom (depth - 1) fuel r).map (fun p => (.array p.1, p.2))
    | '\x7b' :: r =>
      if depth = 0 then none
      else match skipSpace r with
        | '\x7d' :: r => some (.object [], r)
        | r => (membersFrom (depth - 1) [] fuel r).map (fun p => (.object p.1, p.2))
    | r => numberFrom false r

/-- Reads the items of an array up to its end. -/
def itemsFrom (depth : Nat) : (fuel : Nat) → Text → Option (List Json × Text)
  | 0, _ => none
  | fuel + 1, s => do
    let (v, r) ← valueFrom depth fuel s
    match skipSpace r with
    | ',' :: r =>
      let (vs, r) ← itemsFrom depth fuel r
      pure (v :: vs, r)
    | ']' :: r => pure ([v], r)
    | _ => none

/-- Reads the members of an object up to its end and adds them to `done`. -/
def membersFrom (depth : Nat) (done : List (Text × Json)) :
    (fuel : Nat) → Text → Option (List (Text × Json) × Text)
  | 0, _ => none
  | fuel + 1, s =>
    match skipSpace s with
    | '"' :: r => do
      let (key, r) ← stringFrom r
      match skipSpace r with
      | ':' :: r =>
        let (v, r) ← valueFrom depth fuel r
        let done := insert key v done
        match skipSpace r with
        | ',' :: r => membersFrom depth done fuel r
        | '\x7d' :: r => pure (done, r)
        | _ => none
      | _ => none
    | _ => none

end

/-- How many collections may stand inside each other. -/
def depthLimit : Nat := 127

/-- Reads a text that holds one value. -/
def read? (s : Text) : Option Json := do
  let (v, r) ← valueFrom depthLimit (s.length + 1) s
  if (skipSpace r).isEmpty then pure v else none

end Json

end Tagline
