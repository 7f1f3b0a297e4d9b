import Courier.Power

/-!
# Binary fractions with 53 bits

A finite floating-point number of double width is a sign and a multiple of a
power of two: `mantissa * 2 ^ (exponent - 1074)`, the mantissa having at most
53 bits. A positive quotient is rounded to the nearest such number, a tie to
the one with the even mantissa; quotients of at least the largest such number
and half a step become infinity.

Key definitions: `Binary.bitsOfQuotient`, `Binary.Shape`, `Binary.shape`.
-/

namespace Courier.Binary

/-- The number of bits of a natural number. -/
def bitLength (n : Nat) : Nat := if n = 0 then 0 else Nat.log2 n + 1

/-- A quotient rounded to a natural number, a tie to the even one. -/
def roundDiv (num den : Nat) : Nat :=
  let q := num / den
  let r := num % den
  if den < 2 * r || (2 * r == den && q % 2 == 1) then q + 1 else q

/-- The exponent, counted from the smallest one, at which a quotient has 53
bits before the point, or the smallest exponent where it has fewer there. -/
def exponentOf (num den : Nat) : Nat :=
  -- the quotient lies between two powers of two, so one of two exponents fits
  let guess := (bitLength num + 1074) - (bitLength den + 53)
  if num * power 2 1074 / (den * power 2 guess) < power 2 53 then guess else guess + 1

/-- The bit pattern of infinity. -/
def infinityBits : Nat := 0x7FF * power 2 52

/-- The bit pattern of the number nearest to a quotient. -/
def bitsOfQuotient (num den : Nat) : Nat :=
  let e := exponentOf num den
  let m := roundDiv (num * power 2 1074) (den * power 2 e)
  -- below 53 bits the pattern is the mantissa; above, each step of the exponent adds 2 ^ 52
  let bits := e * power 2 52 + m
  if bits < infinityBits then bits else infinityBits

/-- The kinds of floating-point numbers. -/
inductive Shape where
  | nan
  | infinite (negative : Bool)
  /-- The number `mantissa * 2 ^ exponent / 2 ^ 1074`. -/
  | finite (negative : Bool) (mantissa exponent : Nat)
  deriving DecidableEq, Repr

/-- The number that a bit pattern stands for. -/
def shapeOfBits (bits : Nat) : Shape :=
  let negative := power 2 63 ≤ bits
  let magnitude := bits % power 2 63
  if infinityBits < magnitude then .nan
  else if magnitude = infinityBits then .infinite negative
  else
    let field := magnitude / power 2 52
    if field = 0 then .finite negative magnitude 0
    else .finite negative (magnitude % power 2 52 + power 2 52) (field - 1)

/-- The parts of a floating-point number. -/
def shape (x : Float) : Shape := shapeOfBits x.toBits.toNat

/-- The floating-point number of a bit pattern and a sign. -/
def ofBits (negative : Bool) (bits : Nat) : Float :=
  .ofBits (.ofNat (if negative then bits + power 2 63 else bits))

end Courier.Binary
