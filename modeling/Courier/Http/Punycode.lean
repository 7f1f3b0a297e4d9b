import Courier.Text.Blank

/-!
# Host names in ASCII

A label of a host name that holds other characters than ASCII ones is written
as its ASCII characters, a hyphen, and a row of differences: the others in
order of their code points, each told by how many states lie between it and
the one before, in digits of base 36 whose thresholds adapt to the size of the
differences seen so far.

Key definitions: `Punycode.encode`, `Punycode.decode?`.
-/

namespace Courier.Punycode

/-- A digit: the small letters and then the decimal digits. -/
def digit (n : Nat) : Char := if n < 26 then .ofNat (0x61 + n) else .ofNat (0x30 + (n - 26))

/-- The threshold of the digit at place `k`, which counts in steps of 36. -/
def threshold (k bias : Nat) : Nat := min (max (k - bias) 1) 26

theorem threshold_pos (k bias : Nat) : 1 ≤ threshold k bias := by
  unfold threshold
  omega

/-- A difference in digits from place `k` on. -/
def digits (bias k q : Nat) : Text :=
  let t := threshold k bias
  if q < t then [digit q]
  else digit (t + (q - t) % (36 - t)) :: digits bias (k + 36) ((q - t) / (36 - t))
termination_by q
decreasing_by
  have h₁ := threshold_pos k bias
  have h₂ : (q - threshold k bias) / (36 - threshold k bias) ≤ q - threshold k bias :=
    Nat.div_le_self _ _
  omega

/-- Divides by 35 until at most 455 is left; each division adds a place. -/
def shrink (delta k : Nat) : Nat × Nat :=
  if h : 455 < delta then shrink (delta / 35) (k + 36) else (delta, k)
termination_by delta
decreasing_by exact Nat.div_lt_self (by omega) (by omega)

/-- The bias after a difference, of which `count` characters were told. -/
def adapt (delta count : Nat) (first : Bool) : Nat :=
  let halved := if first then delta / 700 else delta / 2
  let (delta, k) := shrink (halved + halved / count) 0
  k + 36 * delta / (delta + 38)

/-- The work on a label: what is written, the states passed since, the bias, and
the number of characters told. -/
structure State where
  out : Text
  delta : Nat
  bias : Nat
  told : Nat

/-- One character of the label is passed while the code point `m` is told. -/
def pass (basic m : Nat) (s : State) (c : Char) : State :=
  if c.toNat < m then { s with delta := s.delta + 1 }
  else if c.toNat = m then
    { out := s.out ++ digits s.bias 36 s.delta, delta := 0,
      bias := adapt s.delta (s.told + 1) (s.told == basic), told := s.told + 1 }
  else s

/-- Tells the code points one after another; `n` is the first one not yet passed. -/
def tell (label : Text) (basic : Nat) : List Nat → Nat → State → State
  | [], _, s => s
  | m :: ms, n, s =>
    let s := label.foldl (pass basic m) { s with delta := s.delta + (m - n) * (s.told + 1) }
    tell label basic ms (m + 1) { s with delta := s.delta + 1 }

/-- A label in ASCII characters. -/
def encode (label : Text) : Text :=
  let basic := label.filter (·.toNat < 0x80)
  let others := (label.map Char.toNat).filter (0x80 ≤ ·)
  let start : State := ⟨[], 0, 72, basic.length⟩
  let told := tell label basic.length (others.eraseDups.mergeSort (· ≤ ·)) 0x80 start
  basic ++ (if basic = [] then [] else ['-']) ++ told.out

/-! ### Reading -/

/-- The value of a digit, in which a letter may be a capital one. -/
def digitValue? (c : Char) : Option Nat :=
  if '0' ≤ c ∧ c ≤ '9' then some (c.toNat - 0x30 + 26)
  else if 'a' ≤ c ∧ c ≤ 'z' then some (c.toNat - 0x61)
  else if 'A' ≤ c ∧ c ≤ 'Z' then some (c.toNat - 0x41)
  else none

/-- A difference read from place `k` on, each digit worth `weight` more, and the rest. -/
def readDelta? (bias : Nat) : (k weight sum : Nat) → Text → Option (Nat × Text)
  | _, _, _, [] => none
  | k, weight, sum, c :: cs =>
    match digitValue? c with
    | none => none
    | some d =>
      let t := threshold k bias
      if d < t then some (sum + d * weight, cs)
      else readDelta? bias (k + 36) (weight * (36 - t)) (sum + d * weight) cs

theorem readDelta?_length {bias k weight sum n : Nat} {t rest : Text}
    (h : readDelta? bias k weight sum t = some (n, rest)) : rest.length < t.length := by
  induction t generalizing k weight sum with
  | nil => simp [readDelta?] at h
  | cons c cs ih =>
    simp only [readDelta?] at h
    split at h
    · exact absurd h (by simp)
    · split at h
      · obtain ⟨-, rfl⟩ := Prod.mk.inj (Option.some.inj h)
        exact Nat.lt_succ_self _
      · exact Nat.lt_succ_of_lt (ih h)

/-- The code points that a row of differences tells, put into those that stand for
themselves: `n` is the code point told last, and `place` is where it would come next. -/
def tellBack? (n bias place : Nat) (first : Bool) (label : List Nat) (t : Text) :
    Option (List Nat) :=
  if t = [] then some label
  else
    match _h : readDelta? bias 36 1 0 t with
    | none => none
    | some (delta, rest) =>
      let size := label.length + 1
      let n := n + (place + delta) / size
      let place := (place + delta) % size
      if 0x10FFFF < n then none
      else
        tellBack? n (adapt delta size first) (place + 1) false
          (label.take place ++ n :: label.drop place) rest
termination_by t.length
decreasing_by exact readDelta?_length ‹_›

/-- The code points of a label in ASCII characters. -/
def decode? (t : Text) : Option (List Nat) :=
  let basic := (t.reverse.dropWhile (· != '-')).drop 1
  let rest := (t.reverse.takeWhile (· != '-')).reverse
  tellBack? 0x80 72 0 true (basic.reverse.map Char.toNat) rest

end Courier.Punycode
