import Intercept.Json.Numeral

/-!
# Magnitudes of numerals

A numeral stands for a whole number of 64 bits or for a binary64 number.  The significand keeps its
leading digits as long as they fit 64 bits: further whole digits raise the exponent, and further
digits of the fraction are dropped.  A numeral is beyond range when the nearest binary64 numbers of
significand and power of ten have a product that no finite binary64 number is nearest to.
-/

namespace Intercept.Json

/-- Appends digits to `n` as long as 64 bits hold the result, and counts them. -/
def absorb : Nat → List Char → Nat × Nat
  | n, [] => (n, 0)
  | n, d :: digits =>
    let m := n * 10 + (d.toNat - 48)
    if m < 18446744073709551616 then
      let (value, count) := absorb m digits
      (value, count + 1)
    else (n, 0)

/-- The binary64 number nearest to `n`, ties to even, for `n` below 2^1024. -/
def nearestBinary64 (n : Nat) : Nat :=
  let shift := Nat.log2 n + 1 - 53
  let unit := Nat.pow 2 shift
  let quotient := n / unit
  let twice := 2 * (n % unit)
  if unit < twice ∨ (unit = twice ∧ quotient % 2 = 1) then (quotient + 1) * unit
  else quotient * unit

/-- Products from here on round to infinity. -/
def beyondBinary64 : Nat :=
  Nat.pow 2 1024 - Nat.pow 2 970

namespace Numeral

def exponentValue (numeral : Numeral) : Int :=
  match numeral.exponent with
  | none => 0
  | some (negative, digits) =>
      if negative then - Int.ofNat (digitsValue digits) else Int.ofNat (digitsValue digits)

def scaled (numeral : Numeral) : Nat × Int :=
  let (whole, kept) := absorb 0 numeral.whole
  let (significand, places) := absorb whole numeral.fraction
  (significand, Int.ofNat (numeral.whole.length - kept) - Int.ofNat places + numeral.exponentValue)

def isBeyond (numeral : Numeral) : Bool :=
  let (significand, exponent) := numeral.scaled
  significand != 0 &&
    (308 < exponent ||
      (0 ≤ exponent &&
        beyondBinary64 ≤ nearestBinary64 significand * nearestBinary64 (Nat.pow 10 exponent.toNat)))

/-- The whole number of 64 bits that a numeral without sign, point and exponent stands for. -/
def word? (numeral : Numeral) : Option Nat :=
  if numeral.negative || !numeral.fraction.isEmpty || numeral.exponent.isSome then none
  else if digitsValue numeral.whole < 18446744073709551616 then some (digitsValue numeral.whole)
  else none

end Numeral

end Intercept.Json
