-- SUMMARY: Decimals rounded to binary numbers of 53 digits, and the whole numbers among them.
import CustomElement.Json.Value

/-! ## Whole numbers among decimals

A decimal counts as the binary number of 53 digits that is nearest to it; of two that are equally
near, the even one. It is used as a whole number if that binary number is whole. -/

namespace CustomElement.Json

/-- The quotient rounded to the nearest whole number, a half to the even one. -/
def roundDiv (n d : Nat) : Nat :=
  let q := n / d
  let r := n % d
  if 2 * r < d then q else if d < 2 * r then q + 1 else q + q % 2

/-- The power of two of the last binary digit that is kept of a quotient. -/
def lastDigit (n d : Nat) : Int :=
  let guess : Int := (n.log2 : Int) - d.log2 - 53
  let scaled := if guess < 0 then n * Nat.pow 2 (-guess).toNat / d
    else n / (d * Nat.pow 2 guess.toNat)
  max (if Nat.pow 2 53 ≤ scaled then guess + 1 else guess) (-1074)

/-- The whole number that the rounded quotient is, if it is whole. -/
def wholeOfRatio? (n d : Nat) : Option Nat :=
  if n = 0 then some 0 else
  let q := lastDigit n d
  if 0 ≤ q then some (roundDiv n (d * Nat.pow 2 q.toNat) * Nat.pow 2 q.toNat)
  else
    let unit := Nat.pow 2 (-q).toNat
    let m := roundDiv (n * unit) d
    if m % unit = 0 then some (m / unit) else none

/-- How a decimal can be used as a whole number. -/
inductive Whole where
  | exact (n : Int)
  | fraction
  | tooLarge
  | notFinite
  deriving DecidableEq, Repr

/-- How many decimal digits a number has before the point. -/
def digitsBefore (mantissa : Nat) (exponent : Int) : Int := (toString mantissa).length + exponent

/-- The whole number of a decimal. It must fit into 64 bits. -/
def Real.whole : Real → Whole
  | infinite _ | notANumber => .notFinite
  | finite mantissa exponent =>
    let m := mantissa.natAbs
    if m = 0 then .exact 0
    else if 310 < digitsBefore m exponent then .notFinite
    else if digitsBefore m exponent < -330 then .exact 0
    else
      let found := if 0 ≤ exponent then wholeOfRatio? (m * Nat.pow 10 exponent.toNat) 1
        else wholeOfRatio? m (Nat.pow 10 (-exponent).toNat)
      match found with
      | none => .fraction
      | some n =>
        if Nat.pow 2 1024 ≤ n then .notFinite
        else if Nat.pow 2 63 ≤ n then .tooLarge
        else .exact (if mantissa < 0 then -n else n)

end CustomElement.Json
