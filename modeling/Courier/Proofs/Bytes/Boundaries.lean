import Courier.Proofs.Bytes.Utf8

/-!
# Where characters start in UTF-8

The first byte of a character is no tail, and all its other bytes are. So where a
byte that is no tail stands among the bytes of a text, a character starts: what
stands before it are the bytes of a text, and so is what starts there. And a text
is read from its own bytes only: what is overlong, cut short, a surrogate or
above U+10FFFF is refused.

Key theorems: `Utf8.exists_lead_encodeChar`, `Utf8.encode_eq_encode_append`, `Utf8.encode_split`,
`Utf8.decode_eq_ok`.
-/

namespace Courier.Utf8

variable {a b c d : UInt8} {bs rest : Bytes} {t u : Text}

theorem size_append (t u : Text) : size (t ++ u) = size t + size u := by
  rw [size, encode_append, List.length_append]
  rfl

/-- A start of a text is no longer than the text. -/
theorem size_mono {t u : Text} (h : t <+: u) : size t ≤ size u := by
  obtain ⟨rest, rfl⟩ := h
  rw [size_append]
  exact Nat.le_add_right _ _

/-- An ASCII text has one byte for each character. -/
theorem size_of_ascii : ∀ {t : Text}, (∀ c ∈ t, c.toNat < 0x80) → size t = t.length
  | [], _ => rfl
  | c :: t, h => by
    have hc : encodeChar c = [.ofNat c.toNat] := encodeChar_of_ascii (h c List.mem_cons_self)
    have ht : size t = t.length := size_of_ascii fun d hd => h d (List.mem_cons_of_mem c hd)
    unfold size at ht ⊢
    rw [encode_cons, hc, List.length_append, ht, List.length_singleton, List.length_cons]
    omega

/-! ### Leads and tails -/

theorem toNat_charOfNat {n : Nat} (h : n < 0xD800 ∨ 0xDFFF < n ∧ n < 0x110000) :
    (Char.ofNat n).toNat = n := by
  have hvalid : n.isValidChar := h
  rw [Char.ofNat, dif_pos hvalid]
  rfl

/-- **A character starts with a byte that is no tail, and goes on with tails.** -/
theorem exists_lead_encodeChar (c : Char) : ∃ lead tails, encodeChar c = lead :: tails ∧
    isTail lead = false ∧ ∀ x ∈ tails, isTail x = true := by
  have hrange := toNat_range c
  unfold encodeChar
  generalize c.toNat = n at hrange
  have hlead : ∀ m, m < 0x80 ∨ 0xC0 ≤ m ∧ m < 0x100 → isTail (.ofNat m) = false := by
    intro m hm
    refine Bool.eq_false_iff.mpr fun h => ?_
    rw [isTail_iff, toNat_ofNat (by omega)] at h
    omega
  have htail : ∀ m, isTail (.ofNat (0x80 + m % 0x40)) = true := by
    intro m
    rw [isTail_iff, toNat_ofNat (by omega)]
    omega
  simp only
  by_cases h1 : n < 0x80
  · rw [if_pos h1]
    exact ⟨_, _, rfl, hlead _ (by omega), by simp⟩
  rw [if_neg h1]
  by_cases h2 : n < 0x800
  · rw [if_pos h2]
    exact ⟨_, _, rfl, hlead _ (by omega), List.forall_mem_singleton.mpr (htail _)⟩
  rw [if_neg h2]
  by_cases h3 : n < 0x10000
  · rw [if_pos h3]
    exact ⟨_, _, rfl, hlead _ (by omega),
      List.forall_mem_cons.mpr ⟨htail _, List.forall_mem_singleton.mpr (htail _)⟩⟩
  · rw [if_neg h3]
    exact ⟨_, _, rfl, hlead _ (by omega), List.forall_mem_cons.mpr ⟨htail _,
      List.forall_mem_cons.mpr ⟨htail _, List.forall_mem_singleton.mpr (htail _)⟩⟩⟩

/-- An ASCII byte stands for a character by itself only. -/
theorem eq_of_mem_encodeChar {ch : Char} (ha : a ∈ encodeChar ch) (h : a.toNat < 0x80) :
    ch.toNat = a.toNat := by
  obtain ⟨lead, tails, hshape, -, htails⟩ := exists_lead_encodeChar ch
  rw [hshape] at ha
  rcases List.mem_cons.mp ha with rfl | ha
  · have hpieces := pieces_encodeChar ch []
    rw [List.append_nil, hshape, pieces_one h] at hpieces
    rw [← (Piece.char.inj (List.cons.inj hpieces).1).1, toNat_charOfNat (by omega)]
  · have := isTail_iff.mp (htails a ha)
    omega

/-- The bytes of a text that start as those of a character are the bytes of a text with that
character in front. -/
theorem encode_eq_encodeChar_append {c : Char} (h : encode t = encodeChar c ++ rest) :
    ∃ t', t = c :: t' ∧ encode t' = rest := by
  cases t with
  | nil =>
    obtain ⟨lead, tails, hc, -⟩ := exists_lead_encodeChar c
    rw [hc] at h
    exact absurd h (by simp [encode])
  | cons d t =>
    have hpieces := congrArg pieces h
    rw [encode_cons, pieces_encodeChar, pieces_encodeChar] at hpieces
    obtain rfl : d = c := (Piece.char.inj (List.cons.inj hpieces).1).1
    rw [encode_cons] at h
    exact ⟨t, rfl, List.append_cancel_left h⟩

/-- The bytes of a text that start as those of another are the bytes of a text that starts
as the other does. -/
theorem encode_eq_encode_append : ∀ {u : Text} {t : Text} {rest : Bytes},
    encode t = encode u ++ rest → ∃ t', t = u ++ t' ∧ encode t' = rest
  | [], t, _, h => ⟨t, rfl, h⟩
  | c :: u, t, rest, h => by
    rw [encode_cons, List.append_assoc] at h
    obtain ⟨t₁, rfl, h₁⟩ := encode_eq_encodeChar_append h
    obtain ⟨t₂, rfl, h₂⟩ := encode_eq_encode_append h₁
    exact ⟨t₂, rfl, h₂⟩

/-- **Wherever a byte that is no tail stands, the text can be cut.** -/
theorem encode_split : ∀ {t : Text} {before after : Bytes}, encode t = before ++ after →
    (∀ x, after.head? = some x → isTail x = false) →
    ∃ u v, t = u ++ v ∧ encode u = before ∧ encode v = after
  | t, [], after, h, _ => ⟨[], t, rfl, rfl, h⟩
  | [], x :: before, after, h, _ => absurd h (by simp [encode])
  | c :: t, x :: before, after, h, hafter => by
    rw [encode_cons] at h
    rcases List.append_eq_append_iff.mp h with ⟨more, hbefore, hrest⟩ | ⟨inside, hc, rfl⟩
    · obtain ⟨u, v, rfl, hu, hv⟩ := encode_split hrest hafter
      exact ⟨c :: u, v, rfl, by rw [encode_cons, hu, hbefore], hv⟩
    · cases inside with
      | nil =>
        rw [List.append_nil] at hc
        exact ⟨[c], t, rfl, by rw [encode_cons, hc]; simp [encode], rfl⟩
      | cons y inside =>
        -- the cut would lie within the character, before one of its tails
        obtain ⟨lead, tails, hshape, -, htails⟩ := exists_lead_encodeChar c
        have hlist := hshape.symm.trans hc
        rw [List.cons_append] at hlist
        have hy : isTail y = true := htails y (by rw [(List.cons.inj hlist).2]; simp)
        rw [hafter y rfl] at hy
        exact absurd hy (by simp)

/-! ### What is read is what was written -/

theorem ofNat_eq {n : Nat} (h : n = a.toNat) : UInt8.ofNat n = a := by rw [h, UInt8.ofNat_toNat]

theorem fitsSecond_facts (h : fitsSecond a b = true) :
    (0x80 ≤ b.toNat ∧ b.toNat < 0xC0) ∧ (a.toNat = 0xE0 → 0xA0 ≤ b.toNat) ∧
      (a.toNat = 0xED → b.toNat < 0xA0) ∧ (a.toNat = 0xF0 → 0x90 ≤ b.toNat) ∧
      (a.toNat = 0xF4 → b.toNat < 0x90) := by
  have hsame : ∀ n : Nat, n < 256 → a.toNat = n → a = .ofNat n := fun n _ ha =>
    (ofNat_eq ha.symm).symm
  rw [fitsSecond, Bool.and_eq_true, isTail_iff] at h
  refine ⟨h.1, fun ha => ?_, fun ha => ?_, fun ha => ?_, fun ha => ?_⟩
  all_goals
    rw [hsame _ (by decide) ha] at h
    simpa using h.2

theorem encodeChar_one (ha : a.toNat < 0x80) : encodeChar (.ofNat a.toNat) = [a] := by
  rw [encodeChar, toNat_charOfNat (by omega)]
  rw [if_pos ha, UInt8.ofNat_toNat]

theorem encodeChar_two (ha : 0xC2 ≤ a.toNat) (ha' : a.toNat < 0xE0) (hb : isTail b = true) :
    encodeChar (.ofNat ((a.toNat - 0xC0) * 0x40 + tailBits b)) = [a, b] := by
  have hb := isTail_iff.mp hb
  unfold tailBits
  rw [encodeChar, toNat_charOfNat (by omega)]
  rw [if_neg (by omega), if_pos (by omega), ofNat_eq (a := a) (by omega),
    ofNat_eq (a := b) (by omega)]

theorem encodeChar_three (ha : 0xE0 ≤ a.toNat) (ha' : a.toNat < 0xF0) (hb : fitsSecond a b = true)
    (hc : isTail c = true) :
    encodeChar (.ofNat ((a.toNat - 0xE0) * 0x1000 + tailBits b * 0x40 + tailBits c)) = [a, b, c] := by
  obtain ⟨hb, h0, hD, -, -⟩ := fitsSecond_facts hb
  have hc := isTail_iff.mp hc
  unfold tailBits
  rw [encodeChar, toNat_charOfNat (by omega)]
  rw [if_neg (by omega), if_neg (by omega), if_pos (by omega), ofNat_eq (a := a) (by omega),
    ofNat_eq (a := b) (by omega), ofNat_eq (a := c) (by omega)]

theorem encodeChar_four (ha : 0xF0 ≤ a.toNat) (ha' : a.toNat < 0xF5) (hb : fitsSecond a b = true)
    (hc : isTail c = true) (hd : isTail d = true) :
    encodeChar (.ofNat ((a.toNat - 0xF0) * 0x40000 + tailBits b * 0x1000 + tailBits c * 0x40 +
      tailBits d)) = [a, b, c, d] := by
  obtain ⟨hb, -, -, hF, h4⟩ := fitsSecond_facts hb
  have hc := isTail_iff.mp hc
  have hd := isTail_iff.mp hd
  unfold tailBits
  rw [encodeChar, toNat_charOfNat (by omega)]
  rw [if_neg (by omega), if_neg (by omega), if_neg (by omega), ofNat_eq (a := a) (by omega),
    ofNat_eq (a := b) (by omega), ofNat_eq (a := c) (by omega), ofNat_eq (a := d) (by omega)]

/-- Where a character comes first and what follows is read back, so is the whole. -/
theorem encode_of_char {position w : Nat} {ch : Char} {written : Bytes}
    (hch : encodeChar ch = written)
    (hrest : ∀ {t : Text} (position : Nat),
      textOfPieces position (pieces rest) = .ok t → encode t = rest)
    (h : textOfPieces position (.char ch w :: pieces rest) = .ok t) : encode t = written ++ rest := by
  rw [textOfPieces] at h
  cases hread : textOfPieces (position + w) (pieces rest) with
  | error f =>
    rw [hread] at h
    exact absurd h (by simp [Except.map])
  | ok t' =>
    rw [hread] at h
    rw [← Except.ok.inj h, encode_cons, hch, hrest _ hread]

/-- What is read piece by piece without a fault are the bytes of the text: each piece that
is a character is the bytes of that character. -/
theorem encode_of_textOfPieces (position : Nat) (h : textOfPieces position (pieces bs) = .ok t) :
    encode t = bs := by
  fun_induction pieces bs generalizing position t with
  | case1 =>
    rw [← Except.ok.inj h]
    rfl
  | case2 a rest ha ih => exact encode_of_char (encodeChar_one ha) ih h
  | case5 a _ ha ha' b rest hb ih =>
    have ha : 0xC2 ≤ a.toNat := by simp at ha; omega
    exact encode_of_char (encodeChar_two ha ha' hb) ih h
  | case11 a _ _ ha b hb c rest hc ha' ih =>
    have hb : fitsSecond a b = true := by simpa using hb
    have hc : isTail c = true := by simpa using hc
    exact encode_of_char (encodeChar_three (by omega) ha' hb hc) ih h
  | case14 a _ ha _ b hb c hc ha' d rest hd ih =>
    have ha : a.toNat < 0xF5 := by simp at ha; omega
    have hb : fitsSecond a b = true := by simpa using hb
    have hc : isTail c = true := by simpa using hc
    have hd : isTail d = true := by simpa using hd
    exact encode_of_char (encodeChar_four (by omega) ha hb hc hd) ih h
  -- every other sequence starts with a bad piece
  | _ => exact absurd h (by simp [textOfPieces])

/-- **A byte sequence is read as a text just when it is the bytes of that text.** -/
theorem decode_eq_ok : decode bs = .ok t ↔ encode t = bs :=
  ⟨encode_of_textOfPieces 0, fun h => h ▸ decode_encode t⟩

/-- A byte sequence is refused just when it is the bytes of no text. -/
theorem exists_decode_eq_error : (∃ f, decode bs = .error f) ↔ ∀ t, encode t ≠ bs := by
  simp only [ne_eq, ← decode_eq_ok]
  cases decode bs <;> simp

end Courier.Utf8
