/-!
# The fewest digits that read back

A positive binary number `m * 2 ^ q` of a format with `bits` bits of precision
stands for every real number that is rounded to it: those nearer to it than to its
neighbours, and the two midpoints as well if `m` is even. Of the decimal numbers
`d * 10 ^ e` in that interval the function `Number.shortest` takes one with the
fewest digits, and the nearest of those; which of two equally near ones is taken
depends on the format of the output (`Number.Tie`).

All comparisons are between natural numbers. The value and the two ends of the
interval are held as numerators over one denominator (`Number.Interval`).
-/

namespace Tagline

namespace Number

/-- Which of two neighbours is taken if the value lies in the middle. -/
inductive Tie where
  | toEven
  | upward
  deriving DecidableEq, Repr

/-- The one of `d` and `d + 1` that a tie goes to. -/
def Tie.choose : Tie → Nat → Nat
  | .toEven, d => d + d % 2
  | .upward, d => d + 1

/-- A positive value with the ends of the interval of reals that round to it, as
numerators over one denominator. -/
structure Interval where
  low : Nat
  value : Nat
  high : Nat
  denominator : Nat
  /-- Whether the ends belong to the interval. -/
  closed : Bool

/-- The interval of `m * 2 ^ q`. Below a power of two the neighbours are twice as
near, except at the least exponent. -/
def Interval.ofBinary (bits : Nat) (least : Int) (m : Nat) (q : Int) : Interval :=
  let below := if m = Nat.pow 2 (bits - 1) ∧ least < q then 1 else 2
  let up := Nat.pow 2 (q - 2).toNat
  { low := (4 * m - below) * up
    value := 4 * m * up
    high := (4 * m + 2) * up
    denominator := Nat.pow 2 (2 - q).toNat
    closed := m % 2 == 0 }

/-- Whether `d * 10 ^ e` lies in the interval. -/
def Interval.mem (i : Interval) (d : Nat) (e : Int) : Bool :=
  let x := d * Nat.pow 10 e.toNat * i.denominator
  let scale := Nat.pow 10 (-e).toNat
  if i.closed then i.low * scale ≤ x && x ≤ i.high * scale
  else i.low * scale < x && x < i.high * scale

/-- The distance of `d * 10 ^ e` from the value, over a denominator that depends on
`e` only. -/
def Interval.distance (i : Interval) (d : Nat) (e : Int) : Nat :=
  let x := d * Nat.pow 10 e.toNat * i.denominator
  let v := i.value * Nat.pow 10 (-e).toNat
  (x - v) + (v - x)

/-- The value in units of `10 ^ e`, rounded down. -/
def Interval.floorAt (i : Interval) (e : Int) : Nat :=
  i.value * Nat.pow 10 (-e).toNat / (Nat.pow 10 e.toNat * i.denominator)

/-- The multiple of `10 ^ e` next to the value that lies in the interval; of two the
nearer. -/
def Interval.pick? (tie : Tie) (i : Interval) (e : Int) : Option Nat :=
  let d := i.floorAt e
  match i.mem d e, i.mem (d + 1) e with
  | false, false => none
  | true, false => some d
  | false, true => some (d + 1)
  | true, true =>
    if i.distance d e < i.distance (d + 1) e then some d
    else if i.distance (d + 1) e < i.distance d e then some (d + 1)
    else some (tie.choose d)

/-- Tries the grids `10 ^ e`, `10 ^ (e - 1)`, … and takes the first on which a point
lies in the interval. The last of `fuel` grids is taken without a test. -/
def Interval.search (tie : Tie) (i : Interval) : (fuel : Nat) → (e : Int) → Nat × Int
  | 0, e => (i.floorAt e, e)
  | fuel + 1, e =>
    match i.pick? tie e with
    | some d => (d, e)
    | none => i.search tie fuel (e - 1)

/-- An exponent `e` with `value < 10 ^ e`, not far above the least one. -/
def Interval.topExponent (i : Interval) : Int :=
  let n := i.value / i.denominator
  if 0 < n then ((Nat.toDigits 10 n).length : Int)
  else 1 - ((Nat.toDigits 10 (i.denominator / i.value)).length : Int) + 1

/-- Removes the zeros at the end of a coefficient. -/
def dropZeros : (fuel : Nat) → (d : Nat) → (e : Int) → Nat × Int
  | 0, d, e => (d, e)
  | fuel + 1, d, e => if d ≠ 0 ∧ d % 10 = 0 then dropZeros fuel (d / 10) (e + 1) else (d, e)

/-- The shortest decimal `d * 10 ^ e` that reads back as `m * 2 ^ q`. -/
def shortest (tie : Tie) (bits : Nat) (least : Int) (m : Nat) (q : Int) : Nat × Int :=
  let i := Interval.ofBinary bits least m q
  let (d, e) := i.search tie 20 i.topExponent
  dropZeros 20 d e

end Number

end Tagline
