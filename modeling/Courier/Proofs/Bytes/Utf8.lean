import Courier.Bytes.Utf8
import Courier.Proofs.Fault

/-!
# UTF-8 can be read back

Each character is written in one to four bytes, of which the first one tells how
many there are. So the bytes of a character are the first piece of whatever they
start, and a text is read back from its bytes, strictly as well as leniently.

Key theorems: `Utf8.pieces_encodeChar`, `Utf8.decode_encode`, `Utf8.decodeLossy_encode`.
-/

namespace Courier.Utf8

variable {a b c d : UInt8} {rest : Bytes}

theorem toNat_ofNat {n : Nat} (h : n < 256) : (UInt8.ofNat n).toNat = n := by
  rw [UInt8.toNat_ofNat']
  exact Nat.mod_eq_of_lt h

theorem isTail_iff : isTail b = true ↔ 0x80 ≤ b.toNat ∧ b.toNat < 0xC0 := by
  simp [isTail]

theorem fitsSecond_of (hb : isTail b = true) (h0 : a.toNat = 0xE0 → 0xA0 ≤ b.toNat)
    (hD : a.toNat = 0xED → b.toNat < 0xA0) (hF : a.toNat = 0xF0 → 0x90 ≤ b.toNat)
    (h4 : a.toNat = 0xF4 → b.toNat < 0x90) : fitsSecond a b = true := by
  unfold fitsSecond
  rw [hb, Bool.true_and]
  split
  · rename_i ha
    exact decide_eq_true (h0 (congrArg UInt8.toNat ha))
  · split
    · rename_i ha
      exact decide_eq_true (hD (congrArg UInt8.toNat ha))
    · split
      · rename_i ha
        exact decide_eq_true (hF (congrArg UInt8.toNat ha))
      · split
        · rename_i ha
          exact decide_eq_true (h4 (congrArg UInt8.toNat ha))
        · rfl

/-! ### The piece that starts a byte sequence, by its width -/

theorem pieces_one (ha : a.toNat < 0x80) :
    pieces (a :: rest) = .char (.ofNat a.toNat) 1 :: pieces rest := by
  rw [pieces.eq_def]
  simp only [if_pos ha]

theorem pieces_two (ha : 0xC2 ≤ a.toNat) (ha' : a.toNat < 0xE0) (hb : isTail b = true) :
    pieces (a :: b :: rest) =
      .char (.ofNat ((a.toNat - 0xC0) * 0x40 + tailBits b)) 2 :: pieces rest := by
  rw [pieces.eq_def]
  simp only
  rw [if_neg (by omega), if_neg (by simp; omega), if_pos ha', if_pos hb]

theorem pieces_three (ha : 0xE0 ≤ a.toNat) (ha' : a.toNat < 0xF0) (hb : fitsSecond a b = true)
    (hc : isTail c = true) :
    pieces (a :: b :: c :: rest) =
      .char (.ofNat ((a.toNat - 0xE0) * 0x1000 + tailBits b * 0x40 + tailBits c)) 3 ::
        pieces rest := by
  rw [pieces.eq_def]
  simp only
  rw [if_neg (by omega), if_neg (by simp; omega), if_neg (by omega), if_neg (by simp [hb]),
    if_neg (by simp [hc]), if_pos ha']

theorem pieces_four (ha : 0xF0 ≤ a.toNat) (ha' : a.toNat < 0xF5) (hb : fitsSecond a b = true)
    (hc : isTail c = true) (hd : isTail d = true) :
    pieces (a :: b :: c :: d :: rest) =
      .char (.ofNat ((a.toNat - 0xF0) * 0x40000 + tailBits b * 0x1000 + tailBits c * 0x40 +
        tailBits d)) 4 :: pieces rest := by
  rw [pieces.eq_def]
  simp only
  rw [if_neg (by omega), if_neg (by simp; omega), if_neg (by omega), if_neg (by simp [hb]),
    if_neg (by simp [hc]), if_neg (by omega), if_neg (by simp [hd])]

/-! ### Characters and texts -/

/-- The number of a character is no surrogate's, and is at most U+10FFFF. -/
theorem toNat_range (c : Char) : c.toNat < 0xD800 ∨ 0xDFFF < c.toNat ∧ c.toNat < 0x110000 := c.valid

theorem encodeChar_of_ascii {c : Char} (h : c.toNat < 0x80) : encodeChar c = [.ofNat c.toNat] :=
  if_pos h

/-- **The bytes of a character are the first piece** of what they start. -/
theorem pieces_encodeChar (c : Char) (rest : Bytes) :
    pieces (encodeChar c ++ rest) = .char c (encodeChar c).length :: pieces rest := by
  have hrange := toNat_range c
  have hback : ∀ n, n = c.toNat → Char.ofNat n = c := fun n h => h ▸ Char.ofNat_toNat c
  unfold encodeChar
  generalize c.toNat = n at hrange hback
  simp only
  by_cases h1 : n < 0x80
  · have ha : (UInt8.ofNat n).toNat = n := toNat_ofNat (by omega)
    rw [if_pos h1, List.singleton_append, pieces_one (by omega), hback _ ha]
    rfl
  rw [if_neg h1]
  by_cases h2 : n < 0x800
  · have ha : (UInt8.ofNat (0xC0 + n / 0x40)).toNat = 0xC0 + n / 0x40 := toNat_ofNat (by omega)
    have hb : (UInt8.ofNat (0x80 + n % 0x40)).toNat = 0x80 + n % 0x40 := toNat_ofNat (by omega)
    rw [if_pos h2, List.cons_append, List.singleton_append,
      pieces_two (by omega) (by omega) (isTail_iff.mpr (by omega)), hback _ (by
        unfold tailBits
        omega)]
    rfl
  rw [if_neg h2]
  by_cases h3 : n < 0x10000
  · have ha : (UInt8.ofNat (0xE0 + n / 0x1000)).toNat = 0xE0 + n / 0x1000 := toNat_ofNat (by omega)
    have hb : (UInt8.ofNat (0x80 + n / 0x40 % 0x40)).toNat = 0x80 + n / 0x40 % 0x40 :=
      toNat_ofNat (by omega)
    have hc : (UInt8.ofNat (0x80 + n % 0x40)).toNat = 0x80 + n % 0x40 := toNat_ofNat (by omega)
    rw [if_pos h3, List.cons_append, List.cons_append, List.singleton_append,
      pieces_three (by omega) (by omega)
        (fitsSecond_of (isTail_iff.mpr (by omega)) (by omega) (by omega) (by omega) (by omega))
        (isTail_iff.mpr (by omega)),
      hback _ (by
        unfold tailBits
        omega)]
    rfl
  · have ha : (UInt8.ofNat (0xF0 + n / 0x40000)).toNat = 0xF0 + n / 0x40000 :=
      toNat_ofNat (by omega)
    have hb : (UInt8.ofNat (0x80 + n / 0x1000 % 0x40)).toNat = 0x80 + n / 0x1000 % 0x40 :=
      toNat_ofNat (by omega)
    have hc : (UInt8.ofNat (0x80 + n / 0x40 % 0x40)).toNat = 0x80 + n / 0x40 % 0x40 :=
      toNat_ofNat (by omega)
    have hd : (UInt8.ofNat (0x80 + n % 0x40)).toNat = 0x80 + n % 0x40 := toNat_ofNat (by omega)
    rw [if_neg h3, List.cons_append, List.cons_append, List.cons_append, List.singleton_append,
      pieces_four (by omega) (by omega)
        (fitsSecond_of (isTail_iff.mpr (by omega)) (by omega) (by omega) (by omega) (by omega))
        (isTail_iff.mpr (by omega)) (isTail_iff.mpr (by omega)),
      hback _ (by
        unfold tailBits
        omega)]
    rfl

theorem encode_cons (c : Char) (t : Text) : encode (c :: t) = encodeChar c ++ encode t :=
  List.flatMap_cons

theorem encode_append (t u : Text) : encode (t ++ u) = encode t ++ encode u := List.flatMap_append

theorem textOfPieces_encode : ∀ (t : Text) (position : Nat),
    textOfPieces position (pieces (encode t)) = .ok t
  | [], _ => rfl
  | c :: t, position => by
    rw [encode_cons, pieces_encodeChar, textOfPieces, textOfPieces_encode t]
    rfl

/-- **A text is read back from its bytes.** -/
theorem decode_encode (t : Text) : decode (encode t) = .ok t := textOfPieces_encode t 0

theorem encode_ne_nil {t : Text} (h : t ≠ []) : encode t ≠ [] := by
  intro hnil
  have hback := decode_encode t
  rw [hnil] at hback
  exact h (Except.ok.inj hback).symm

theorem decodeLossy_encode : ∀ t : Text, decodeLossy (encode t) = t
  | [] => rfl
  | c :: t => by
    rw [decodeLossy, encode_cons, pieces_encodeChar, List.map_cons, ← decodeLossy,
      decodeLossy_encode t]
    rfl

end Courier.Utf8
