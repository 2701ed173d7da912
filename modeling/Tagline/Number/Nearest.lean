/-!
# The nearest number of double precision

A positive fraction is rounded to the number `m * 2 ^ q` of double precision that is
nearest to it, and to the one with an even `m` if two are equally near
(`Number.nearest`). The exponent is the least for which `m` has at most 53 bits; very
small fractions have the least exponent of the format and fewer bits.

The binary form is put together from `m` and `q` by one addition: a carry out of the 53
bits of `m` moves on to the exponent by itself.
-/

namespace Tagline

namespace Number

/-- The least binary exponent of double precision. -/
def leastExponent : Int := -1074

/-- A quotient to the nearest natural number, and to the even one of two equally near. -/
def roundDiv (n d : Nat) : Nat :=
  let q := n / d
  let r := n % d
  if 2 * r < d then q else if d < 2 * r then q + 1 else q + q % 2

/-- The numerator and denominator of a fraction in units of `2 ^ q`. -/
def inUnits (num den : Nat) (q : Int) : Nat × Nat :=
  (num * Nat.pow 2 (-q).toNat, den * Nat.pow 2 q.toNat)

/-- The exponent at which a positive fraction has 53 bits, or the least one. The sizes of
the numerator and denominator give it up to one. -/
def exponentOf (num den : Nat) : Int :=
  let q : Int := (num.log2 : Int) - den.log2 - 53
  let (n, d) := inUnits num den q
  max (if n / d < Nat.pow 2 53 then q else q + 1) leastExponent

/-- The binary form of the nearest number of double precision to a positive fraction.
Fractions beyond the largest number are infinite. -/
def nearestBits (num den : Nat) : Nat :=
  let q := exponentOf num den
  let (n, d) := inUnits num den q
  min ((q - leastExponent).toNat * Nat.pow 2 52 + roundDiv n d) (2047 * Nat.pow 2 52)

/-- The nearest number of double precision to a fraction. -/
def nearest (num den : Nat) : Float :=
  if num = 0 then 0.0 else Float.ofBits (UInt64.ofNat (nearestBits num den))

/-- The nearest number of double precision to an integer. -/
def ofInt : Int → Float
  | .ofNat n => nearest n 1
  | .negSucc n => -nearest (n + 1) 1

end Number

end Tagline
