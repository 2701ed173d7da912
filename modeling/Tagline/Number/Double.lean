import Tagline.Number.Digits
import Tagline.Number.Nearest
import Tagline.Number.Shortest

/-!
# Numbers of double precision in writing

A number of double precision is written with the fewest digits that read back
(`Number.shortest`). Where the layout goes over to an exponent, and which of two equally
near decimals it shows, depends on the format of the output (`Number.Layout`). Decimal
text is read to the nearest number of double precision (`Number.nearest`).
-/

namespace Tagline

namespace Number

/-- A number of double precision by its class: `finite s m q` is `m * 2 ^ q`, negated
if `s` holds. -/
inductive Decoded where
  | nan
  | infinite (negative : Bool)
  | finite (negative : Bool) (m : Nat) (q : Int)
  deriving DecidableEq, Repr

/-- Reads the fields of the binary form. -/
def Decoded.ofBits (bits : Nat) : Decoded :=
  let negative := bits / Nat.pow 2 63 % 2 == 1
  let exponent : Nat := bits / Nat.pow 2 52 % Nat.pow 2 11
  let fraction : Nat := bits % Nat.pow 2 52
  if exponent = 2047 then (if fraction = 0 then .infinite negative else .nan)
  else if exponent = 0 then .finite negative fraction leastExponent
  else .finite negative (Nat.pow 2 52 + fraction) (leastExponent + exponent - 1)

/-- The class and parts of a number. -/
def decode (x : Float) : Decoded := .ofBits x.toBits.toNat

/-- How a finite number is laid out. A number `0.d₁d₂… * 10 ^ p` is written
positionally while `p` lies between the bounds, and with an exponent outside them. -/
structure Layout where
  /-- The bounds of the position of the decimal point, or `none` if all are allowed. -/
  positional : Option (Int × Int)
  /-- Which of two equally near decimals is shown. -/
  tie : Tie
  infinity : Text
  minusInfinity : Text
  nan : Text

/-- Zeros. -/
def zeros (n : Nat) : Text := List.replicate n '0'

/-- Lays out `digits * 10 ^ e` positionally, with at least one digit on either side
of the point. -/
def positionalText (digits : Text) (e : Int) : Text :=
  let point := digits.length + e
  if 0 ≤ e then digits ++ zeros e.toNat ++ ".0".toList
  else if 0 < point then digits.take point.toNat ++ '.' :: digits.drop point.toNat
  else "0.".toList ++ zeros (-point).toNat ++ digits

/-- Lays out `digits * 10 ^ e` with one digit before the point and an exponent. -/
def exponentText (digits : Text) (e : Int) : Text :=
  let exponent := intText (digits.length + e - 1)
  match digits with
  | [] => []
  | [d] => d :: 'e' :: exponent
  | d :: ds => d :: '.' :: ds ++ 'e' :: exponent

/-- A number of double precision in a layout. -/
def doubleText (layout : Layout) (x : Float) : Text :=
  match decode x with
  | .nan => layout.nan
  | .infinite negative => if negative then layout.minusInfinity else layout.infinity
  | .finite negative m q =>
    let sign : Text := if negative then ['-'] else []
    if m = 0 then sign ++ "0.0".toList
    else
      let (d, e) := shortest layout.tie 53 leastExponent m q
      let digits := natText d
      let point := digits.length + e
      let inside := match layout.positional with
        | none => true
        | some (lo, hi) => lo ≤ point && point ≤ hi
      sign ++ (if inside then positionalText digits e else exponentText digits e)

/-! ### Reading -/

/-- The number `digits * 10 ^ e` to the nearest number of double precision. Where the
exponent alone decides, the power of ten is not formed. -/
def ofDecimal (digits : Text) (e : Int) : Float :=
  let digits := digits.dropWhile (· == '0')
  let point := digits.length + e
  if digits.isEmpty then 0.0
  else if 400 < point then 1.0 / 0.0
  else if point < -400 then 0.0
  else nearest (decimalValue digits * Nat.pow 10 e.toNat) (Nat.pow 10 (-e).toNat)

/-- The parts of a decimal number: the digits before and after the point and the
exponent. -/
structure Decimal where
  whole : Text
  fraction : Text
  exponent : Int

/-- Reads an exponent: an optional sign and at least one digit, to the end. -/
def readExponent? (s : Text) : Option Int :=
  match s with
  | '-' :: r => (readNat? 10 r).map (fun n => -(n : Int))
  | '+' :: r => (readNat? 10 r).map Int.ofNat
  | r => (readNat? 10 r).map Int.ofNat

/-- Reads a decimal number without a sign: digits with at most one point among them,
at least one digit, and an optional exponent. -/
def Decimal.read? (s : Text) : Option Decimal :=
  let whole := s.takeWhile isDigit
  let rest := s.dropWhile isDigit
  let (fraction, rest) := match rest with
    | '.' :: r => (r.takeWhile isDigit, r.dropWhile isDigit)
    | r => ([], r)
  if whole.isEmpty && fraction.isEmpty then none
  else match rest with
    | [] => some ⟨whole, fraction, 0⟩
    | 'e' :: r => (readExponent? r).map (⟨whole, fraction, ·⟩)
    | 'E' :: r => (readExponent? r).map (⟨whole, fraction, ·⟩)
    | _ => none

/-- The nearest number of double precision. -/
def Decimal.toFloat (d : Decimal) : Float :=
  ofDecimal (d.whole ++ d.fraction) (d.exponent - d.fraction.length)

/-- Reads a decimal number with an optional sign. -/
def readFloat? (s : Text) : Option Float :=
  match s with
  | '-' :: r => (Decimal.read? r).map (fun d => -d.toFloat)
  | '+' :: r => (Decimal.read? r).map Decimal.toFloat
  | r => (Decimal.read? r).map Decimal.toFloat

end Number

end Tagline
