import Courier.Binary
import Courier.Text.Blank

/-!
# Numbers with six significant digits

A number is rounded to six significant digits, a tie to the even last digit,
and its closing zeros are dropped. It is written in positional form when its
first digit stands for at least a ten-thousandth and less than a million, and
else with an exponent of a sign and at least two digits.

Key definitions: `Decimal.general`.
-/

namespace Courier.Decimal

/-- The significant digits that are kept. -/
def precision : Nat := 6

/-- The power of ten of the first digit of a positive quotient. No number of
double width lies below the power with which the quotient is scaled here. -/
def leadingPower (num den : Nat) : Int :=
  ((Text.ofNat (num * power 10 400 / den)).length : Int) - 401

/-- A positive quotient times a power of ten, rounded. -/
def roundScaled (num den : Nat) (scale : Int) : Nat :=
  if 0 ≤ scale then Binary.roundDiv (num * power 10 scale.toNat) den
  else Binary.roundDiv num (den * power 10 (-scale).toNat)

/-- The text without the zeros at its end. -/
def dropClosingZeros (ds : Text) : Text := (ds.reverse.dropWhile (· == '0')).reverse

/-- Digits after the point, which is left out when there are none. -/
def withPoint (whole fraction : Text) : Text :=
  if fraction = [] then whole else whole ++ '.' :: fraction

/-- An exponent: its sign and at least two digits. -/
def exponentText (x : Int) : Text :=
  let ds := Text.ofNat x.natAbs
  'e' :: (if x < 0 then '-' else '+') :: (List.replicate (2 - ds.length) '0' ++ ds)

/-- A positive quotient with six significant digits. -/
def generalQuotient (num den : Nat) : Text :=
  let x := leadingPower num den
  let n := roundScaled num den (precision - 1 - x)
  -- rounding up to the next power of ten moves the first digit
  let (n, x) := if n = power 10 precision then (power 10 (precision - 1), x + 1) else (n, x)
  let ds := Text.ofNat n
  if x < -4 || (precision : Int) ≤ x then
    withPoint (ds.take 1) (dropClosingZeros (ds.drop 1)) ++ exponentText x
  else if x < 0 then
    withPoint ['0'] (List.replicate (-x - 1).toNat '0' ++ dropClosingZeros ds)
  else withPoint (ds.take (x.toNat + 1)) (dropClosingZeros (ds.drop (x.toNat + 1)))

/-- A floating-point number with six significant digits. -/
def general (x : Float) : Text :=
  match Binary.shape x with
  | .nan => "nan".toList
  | .infinite negative => (if negative then "-inf" else "inf").toList
  | .finite negative m e =>
    (if negative then ['-'] else []) ++
      if m = 0 then ['0'] else generalQuotient (m * power 2 e) (power 2 1074)

end Courier.Decimal
