/-!
# Powers

Powers of natural numbers, in which the sizes of numbers in two and in ten are
told.

Key definitions: `power`.
-/

namespace Courier

/-- A natural number multiplied `n` times with itself. -/
def power (base n : Nat) : Nat := Nat.pow base n

theorem power_succ (base n : Nat) : power base (n + 1) = base * power base n := Nat.mul_comm _ _

end Courier
