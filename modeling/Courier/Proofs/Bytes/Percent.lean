import Courier.Bytes.Percent
import Courier.Proofs.Bytes.Utf8
import Courier.Proofs.Text.Caseless
import Courier.Proofs.Text.Pieces
import Mathlib.Data.List.SplitBy

/-!
# Percent-encodings and what they spell

An encoder has a choice at each byte: a percent sign with two hexadecimal
digits, each of either case, or the character itself where that is one of those
which may stand unencoded. Whatever it chooses, the text is ASCII without white
space, every percent sign in it is followed by its digits, and the text that was
encoded is read back from it.

Key definitions: `Percent.isPlain`, `Percent.Encodes`.
Key theorems: `Percent.Encodes.isSound`, `Percent.Encodes.decode`, `Percent.decode_of_notMem`.
-/

namespace Courier.Percent

/-- May the character stand unencoded? These are the attribute characters of an extended
parameter value. -/
def isPlain (c : Char) : Bool := c.isAlphanum || "!#$&+-.^_`|~".toList.contains c

/-- The character is the hexadecimal digit of a value, in either case. -/
def IsDigitOf (n : Nat) (c : Char) : Prop := c.toLower = Nat.digitChar n

/-- The text is a percent-encoding of the bytes. -/
inductive Encodes : Bytes → Text → Prop
  | nil : Encodes [] []
  | plain {c : Char} {bs : Bytes} {e : Text} (hc : isPlain c = true) (he : Encodes bs e) :
    Encodes (.ofNat c.toNat :: bs) (c :: e)
  | escaped {b : UInt8} {high low : Char} {bs : Bytes} {e : Text}
    (hhigh : IsDigitOf (b.toNat / 16) high) (hlow : IsDigitOf (b.toNat % 16) low)
    (he : Encodes bs e) : Encodes (b :: bs) ('%' :: high :: low :: e)

variable {bs : Bytes} {e : Text}

/-! ### Hexadecimal digits -/

theorem toNat_digitChar {n : Nat} (h : n < 16) :
    (Nat.digitChar n).toNat = if n < 10 then 48 + n else 87 + n := by
  have : ∀ m < 16, (Nat.digitChar m).toNat = if m < 10 then 48 + m else 87 + m := by decide
  exact this n h

/-- The number of a digit, which is a decimal digit, a small letter or a capital. -/
theorem IsDigitOf.toNat {n : Nat} {c : Char} (h : IsDigitOf n c) (hn : n < 16) :
    c.toNat = (if n < 10 then 48 + n else 87 + n) ∨ 10 ≤ n ∧ c.toNat = 55 + n := by
  have hlower := Text.toNat_toLower c
  rw [h, toNat_digitChar hn] at hlower
  split at hlower <;> split at hlower <;> rename_i h₁ h₂
  · omega
  · left
    rw [if_pos h₁]
    omega
  · omega
  · left
    rw [if_neg h₁]
    omega

theorem hexValue?_of_isDigitOf {n : Nat} {c : Char} (h : IsDigitOf n c) (hn : n < 16) :
    hexValue? c = some n := by
  have hnat := h.toNat hn
  unfold hexValue?
  simp only [Text.char_le_iff]
  change (if 48 ≤ c.toNat ∧ c.toNat ≤ 57 then _ else if 97 ≤ c.toNat ∧ c.toNat ≤ 102 then _
    else if 65 ≤ c.toNat ∧ c.toNat ≤ 70 then _ else _) = _
  split at hnat
  · rw [if_pos (by omega)]
    congr 1
    omega
  · rw [if_neg (by omega)]
    rcases hnat with hnat | ⟨-, hnat⟩
    · rw [if_pos (by omega)]
      congr 1
      omega
    · rw [if_neg (by omega), if_pos (by omega)]
      congr 1
      omega

theorem isHex_of_isDigitOf {n : Nat} {c : Char} (h : IsDigitOf n c) (hn : n < 16) :
    isHex c = true := by
  rw [isHex, hexValue?_of_isDigitOf h hn]
  rfl

theorem byte?_of_isDigitOf {b : UInt8} {high low : Char} (hhigh : IsDigitOf (b.toNat / 16) high)
    (hlow : IsDigitOf (b.toNat % 16) low) : byte? high low = some b := by
  have hb := b.toNat_lt
  rw [byte?, hexValue?_of_isDigitOf hhigh (by omega), hexValue?_of_isDigitOf hlow (by omega)]
  simp only
  rw [Nat.div_add_mod, UInt8.ofNat_toNat]

/-! ### The characters of an encoding -/

/-- A character of ASCII that is no white space, no control character and no semicolon. -/
structure IsGraphic (c : Char) : Prop where
  afterSpace : 0x20 < c.toNat
  beforeDelete : c.toNat < 0x7F
  ne_semicolon : c ≠ ';'

theorem IsGraphic.isAscii {c : Char} (h : IsGraphic c) : isAscii c = true :=
  decide_eq_true (Nat.lt_of_lt_of_le h.beforeDelete (by decide))

theorem IsGraphic.isBlank {c : Char} (h : IsGraphic c) : Text.isBlank c = false := by
  have := h.afterSpace
  have := h.beforeDelete
  simp only [Text.isBlank, Bool.or_eq_false_iff, Bool.and_eq_false_iff, decide_eq_false_iff_not,
    beq_eq_false_iff_ne]
  omega

theorem isGraphic_of_isAlphanum {c : Char} (h : c.isAlphanum = true) : IsGraphic c ∧ c ≠ '%' := by
  have hrange := Text.isAlphanum_iff.mp h
  refine ⟨⟨by omega, by omega, ?_⟩, ?_⟩ <;> rintro rfl <;> exact absurd h (by decide)

theorem isGraphic_of_isPlain {c : Char} (h : isPlain c = true) : IsGraphic c ∧ c ≠ '%' := by
  rcases Bool.or_eq_true _ _ ▸ h with h | h
  · exact isGraphic_of_isAlphanum h
  · have hsigns : "!#$&+-.^_`|~".toList.all
        (fun d => 0x20 < d.toNat ∧ d.toNat < 0x7F ∧ d ≠ ';' ∧ d ≠ '%') = true := by
      decide
    obtain ⟨h₁, h₂, h₃, h₄⟩ :=
      of_decide_eq_true (List.all_eq_true.mp hsigns c (List.contains_iff_mem.mp h))
    exact ⟨⟨h₁, h₂, h₃⟩, h₄⟩

theorem isGraphic_of_isDigitOf {n : Nat} {c : Char} (h : IsDigitOf n c) (hn : n < 16) :
    IsGraphic c ∧ c ≠ '%' := by
  have hnat := h.toNat hn
  refine isGraphic_of_isAlphanum (Text.isAlphanum_iff.mpr ?_)
  split at hnat <;> omega

theorem div_lt_sixteen (b : UInt8) : b.toNat / 16 < 16 := by
  have := b.toNat_lt
  omega

theorem mod_lt_sixteen (b : UInt8) : b.toNat % 16 < 16 := Nat.mod_lt _ (by decide)

theorem Encodes.isGraphic (h : Encodes bs e) : ∀ c ∈ e, IsGraphic c := by
  induction h with
  | nil => exact fun c hc => absurd hc List.not_mem_nil
  | plain hc _ ih => exact List.forall_mem_cons.mpr ⟨(isGraphic_of_isPlain hc).1, ih⟩
  | escaped hhigh hlow _ ih =>
    refine List.forall_mem_cons.mpr ⟨⟨by decide, by decide, by decide⟩,
      List.forall_mem_cons.mpr ⟨?_, List.forall_mem_cons.mpr ⟨?_, ih⟩⟩⟩
    · exact (isGraphic_of_isDigitOf hhigh (div_lt_sixteen _)).1
    · exact (isGraphic_of_isDigitOf hlow (mod_lt_sixteen _)).1

theorem Encodes.isTrimmed (h : Encodes bs e) : Text.IsTrimmed e :=
  ⟨fun c hc => (h.isGraphic c (List.mem_of_mem_head? hc)).isBlank,
    fun c hc => (h.isGraphic c (List.mem_of_getLast? hc)).isBlank⟩

theorem Encodes.ne_nil (h : Encodes bs e) (hbs : bs ≠ []) : e ≠ [] := by
  cases h with
  | nil => exact absurd rfl hbs
  | plain hc he => exact List.cons_ne_nil _ _
  | escaped hhigh hlow he => exact List.cons_ne_nil _ _

/-! ### Reading an encoding -/

theorem isSound_cons {c : Char} (hc : c ≠ '%') (t : Text) :
    Percent.isSound (c :: t) = Percent.isSound t := by
  rw [Percent.isSound, bne_iff_ne.mpr hc, Bool.true_or, Bool.true_and]

/-- **No percent sign of an encoding stands without its digits.** -/
theorem Encodes.isSound (h : Encodes bs e) : Percent.isSound e = true := by
  induction h with
  | nil => rfl
  | plain hc _ ih =>
    rw [isSound_cons (isGraphic_of_isPlain hc).2]
    exact ih
  | @escaped b high low bs e hhigh hlow _ ih =>
    have hstart : startsWithByte (high :: low :: e) = true := by
      rw [startsWithByte, isHex_of_isDigitOf hhigh (div_lt_sixteen _),
        isHex_of_isDigitOf hlow (mod_lt_sixteen _)]
      rfl
    rw [Percent.isSound, hstart, Bool.or_true, Bool.true_and,
      isSound_cons (isGraphic_of_isDigitOf hhigh (div_lt_sixteen _)).2,
      isSound_cons (isGraphic_of_isDigitOf hlow (mod_lt_sixteen _)).2]
    exact ih

theorem octets_cons {c : Char} (hc : c ≠ '%') (t : Text) :
    octets (c :: t) = Utf8.encodeChar c ++ octets t := by
  rw [octets.eq_def]
  split
  · rename_i heq
    exact absurd heq (by simp)
  · rename_i heq
    exact absurd (List.cons.inj heq).1 hc
  · rename_i heq
    obtain ⟨rfl, rfl⟩ := List.cons.inj heq
    rfl

theorem Encodes.octets (h : Encodes bs e) : Percent.octets e = bs := by
  induction h with
  | nil => rfl
  | plain hc _ ih =>
    obtain ⟨hgraphic, hne⟩ := isGraphic_of_isPlain hc
    rw [octets_cons hne, ih, Utf8.encodeChar, if_pos (of_decide_eq_true hgraphic.isAscii)]
    rfl
  | escaped hhigh hlow _ ih => rw [Percent.octets, byte?_of_isDigitOf hhigh hlow, ih]

/-- A text of ASCII alone, or of other characters alone, is one run. -/
theorem runs_eq_singleton {t : Text} {kind : Bool} (hne : t ≠ []) (h : ∀ c ∈ t, isAscii c = kind) :
    runs t = [t] := by
  refine List.splitBy_of_isChain hne (List.Pairwise.isChain ?_)
  refine List.pairwise_of_forall_mem_list fun a ha b hb => ?_
  rw [h a ha, h b hb, beq_self_eq_true]

theorem decodeRun_of_ascii {t : Text} (h : ∀ c ∈ t, isAscii c = true) :
    decodeRun t = Utf8.decode (Percent.octets t) := if_pos (List.all_eq_true.mpr h)

theorem decode_of_ascii {t : Text} (hne : t ≠ []) (hascii : ∀ c ∈ t, isAscii c = true) :
    Percent.decode t = Utf8.decode (Percent.octets t) := by
  rw [Percent.decode, runs_eq_singleton hne hascii, List.mapM_cons, decodeRun_of_ascii hascii]
  cases Utf8.decode (Percent.octets t) with
  | error f => rfl
  | ok name => simp [bind, Except.bind, pure, Except.pure, Except.map]

/-! ### Texts without a percent sign -/

theorem isSound_of_notMem : ∀ {t : Text}, '%' ∉ t → Percent.isSound t = true
  | [], _ => rfl
  | c :: t, h => by
    obtain ⟨hc, ht⟩ := not_or.mp (mt List.mem_cons.mpr h)
    rw [isSound_cons (Ne.symm hc)]
    exact isSound_of_notMem ht

theorem octets_append_of_notMem {t : Text} (h : '%' ∉ t) (u : Text) :
    octets (t ++ u) = Utf8.encode t ++ octets u := by
  induction t with
  | nil => rfl
  | cons c t ih =>
    obtain ⟨hc, ht⟩ := not_or.mp (mt List.mem_cons.mpr h)
    rw [List.cons_append, octets_cons (Ne.symm hc), ih ht, Utf8.encode_cons, List.append_assoc]

theorem octets_of_notMem {t : Text} (h : '%' ∉ t) : octets t = Utf8.encode t := by
  have happend := octets_append_of_notMem h []
  rwa [List.append_nil, show octets [] = [] from rfl, List.append_nil] at happend

/-- **A text without a percent sign stands for itself,** ASCII or not: each of its runs does. -/
theorem decode_of_notMem {t : Text} (h : '%' ∉ t) : Percent.decode t = .ok t := by
  have hrun : ∀ run ∈ runs t, decodeRun run = .ok run := by
    intro run hmem
    have hfree : '%' ∉ run := fun hc => h (by
      rw [← List.flatten_splitBy (fun a b => isAscii a == isAscii b) t]
      exact List.mem_flatten.mpr ⟨run, hmem, hc⟩)
    rw [decodeRun]
    split
    · rw [octets_of_notMem hfree, Utf8.decode_encode]
    · rfl
  have hruns := mapM_eq_ok hrun
  rw [List.map_id'] at hruns
  rw [Percent.decode, hruns, Except.map, runs, List.flatten_splitBy]

/-- **What was encoded is read back.** -/
theorem Encodes.decode {name : Text} (hne : name ≠ []) (h : Encodes (Utf8.encode name) e) :
    Percent.decode e = .ok name := by
  rw [decode_of_ascii (h.ne_nil (Utf8.encode_ne_nil hne)) fun c hc => (h.isGraphic c hc).isAscii, h.octets,
    Utf8.decode_encode]

end Courier.Percent
