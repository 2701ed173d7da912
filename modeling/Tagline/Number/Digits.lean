import Tagline.Text.Basic

/-!
# Whole numbers in writing

Whole numbers are written in decimal digits, with a minus sign before a negative
one, and read in any base up to sixteen.
-/

namespace Tagline

namespace Number

/-- A natural number in decimal digits. -/
def natText (n : Nat) : Text := Nat.toDigits 10 n

/-- An integer in decimal digits. -/
def intText : Int → Text
  | .ofNat n => natText n
  | .negSucc n => '-' :: natText (n + 1)

/-- A natural number in hexadecimal digits, the letters in lower case. -/
def hexText (n : Nat) : Text := Nat.toDigits 16 n

/-- The value of a digit below ten, and of a letter from `a` in either case. -/
def digitValue? (c : Char) : Option Nat :=
  if '0' ≤ c ∧ c ≤ '9' then some (c.toNat - 48)
  else if 'a' ≤ c ∧ c ≤ 'f' then some (c.toNat - 87)
  else if 'A' ≤ c ∧ c ≤ 'F' then some (c.toNat - 55)
  else none

/-- The value of a digit in a base. -/
def digitIn? (base : Nat) (c : Char) : Option Nat :=
  (digitValue? c).filter (· < base)

/-- Whether a character is a decimal digit. -/
def isDigit (c : Char) : Bool := '0' ≤ c && c ≤ '9'

/-- Reads digits in a base after the value `acc` of those before them. -/
def readFrom? (base : Nat) : (acc : Nat) → Text → Option Nat
  | acc, [] => some acc
  | acc, c :: s => do readFrom? base (acc * base + (← digitIn? base c)) s

/-- Reads a non-empty text that holds digits of a base only. -/
def readNat? (base : Nat) (s : Text) : Option Nat :=
  if s.isEmpty then none else readFrom? base 0 s

/-- The value of decimal digits, where any other character counts as zero. -/
def decimalValue (s : Text) : Nat :=
  s.foldl (fun n c => n * 10 + (digitIn? 10 c).getD 0) 0

end Number

end Tagline
