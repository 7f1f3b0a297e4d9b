import Courier.Proofs.Bytes.Boundaries
import Courier.Proofs.Bytes.Percent

/-!
# Decoding run by run and as a whole

A percent-encoded text is decoded run by run, each run of ASCII characters through
bytes of its own. Nothing is lost by that: where a run of other characters starts, a
byte stands that is no tail, and there the bytes of any text can be cut. So the text
spells a name just when the bytes of the name are those of the text with every percent sequence
replaced by its byte.

Key definitions: `Percent.Sound`, `Percent.replaced`.
Key theorems: `Percent.isSound_iff`, `Percent.octets_eq_replaced`, `Percent.run_induction`,
`Percent.decode_eq_ok`, `Percent.decode_eq_ok_iff_replaced`.
-/

namespace Courier.Percent

variable {t u v name : Text}

/-! ### Percent signs and their digits -/

/-- Two hexadecimal digits follow every percent sign. -/
def Sound (t : Text) : Prop := ∀ before after, t = before ++ '%' :: after →
  ∃ high low rest, after = high :: low :: rest ∧ isHex high = true ∧ isHex low = true

theorem startsWithByte_iff : startsWithByte t = true ↔
    ∃ high low rest, t = high :: low :: rest ∧ isHex high = true ∧ isHex low = true := by
  rcases t with _ | ⟨a, _ | ⟨b, rest⟩⟩
  · simp [startsWithByte]
  · simp [startsWithByte]
  · simp [startsWithByte]

theorem isSound_iff : ∀ {t : Text}, isSound t = true ↔ Sound t
  | [] => by simp [isSound, Sound]
  | c :: t => by
    have hhere : (c != '%' || startsWithByte t) = true ↔ (c = '%' → startsWithByte t = true) := by
      by_cases hc : c = '%' <;> simp [hc]
    rw [isSound, Bool.and_eq_true, isSound_iff, hhere]
    constructor
    · rintro ⟨hc, ht⟩ before after h
      cases before with
      | nil =>
        obtain ⟨hc', rfl⟩ := List.cons.inj h
        exact startsWithByte_iff.mp (hc hc')
      | cons d before => exact ht before after (List.cons.inj h).2
    · intro h
      refine ⟨fun hc => startsWithByte_iff.mpr (h [] t (by rw [hc]; rfl)), fun before after ht => ?_⟩
      exact h (c :: before) after (by rw [ht]; rfl)

/-! ### The bytes with percent sequences replaced -/

/-- The bytes with each percent sequence in them, a percent sign and two hexadecimal
digits, replaced by the byte that it stands for. -/
def replaced : Bytes → Bytes
  | [] => []
  | p :: high :: low :: rest =>
    match if p = 0x25 then byte? (.ofNat high.toNat) (.ofNat low.toNat) else none with
    | some byte => byte :: replaced rest
    | none => p :: replaced (high :: low :: rest)
  | p :: rest => p :: replaced rest

theorem replaced_cons {p : UInt8} (hp : p ≠ 0x25) (bs : Bytes) :
    replaced (p :: bs) = p :: replaced bs := by
  rcases bs with _ | ⟨a, _ | ⟨b, rest⟩⟩
  · rfl
  · rfl
  · rw [replaced, if_neg hp]

theorem replaced_append {bs : Bytes} (h : ∀ p ∈ bs, p ≠ 0x25) (rest : Bytes) :
    replaced (bs ++ rest) = bs ++ replaced rest := by
  induction bs with
  | nil => rfl
  | cons p bs ih =>
    rw [List.forall_mem_cons] at h
    rw [List.cons_append, replaced_cons h.1, ih h.2, List.cons_append]

theorem isAscii_iff {c : Char} : isAscii c = true ↔ c.toNat < 0x80 := decide_eq_true_iff

theorem isAscii_of_isHex {c : Char} (h : isHex c = true) : c.toNat < 0x80 := by
  by_contra hlarge
  have hnone : hexValue? c = none := by
    simp only [hexValue?, Text.char_le_iff]
    rw [if_neg, if_neg, if_neg]
    all_goals
      rintro ⟨-, h⟩
      exact hlarge (Nat.lt_of_le_of_lt h (by decide))
  rw [isHex, hnone] at h
  exact absurd h (by simp)

theorem isHex_of_byte? {high low : Char} {byte : UInt8} (h : byte? high low = some byte) :
    isHex high = true ∧ isHex low = true := by
  unfold byte? at h
  split at h
  · rename_i hhigh hlow
    rw [isHex, isHex, hhigh, hlow]
    exact ⟨rfl, rfl⟩
  · exact absurd h (by simp)

theorem ne_percent_of_mem_encodeChar {c : Char} (hc : c ≠ '%') :
    ∀ p ∈ Utf8.encodeChar c, p ≠ 0x25 := by
  rintro p hp rfl
  have hnat : c.toNat = '%'.toNat := Utf8.eq_of_mem_encodeChar hp (by decide)
  exact hc (Char.toNat_inj.mp hnat)

/-- Where two hexadecimal digits follow it, a percent sign is read with them. -/
theorem octets_escaped {high low : Char} {byte : UInt8} (h : byte? high low = some byte) (t : Text) :
    octets ('%' :: high :: low :: t) = byte :: octets t := by
  rw [octets, h]

/-- Where they do not, it is read by itself. -/
theorem octets_percent (h : startsWithByte t = false) :
    octets ('%' :: t) = Utf8.encodeChar '%' ++ octets t := by
  rcases t with _ | ⟨a, _ | ⟨b, rest⟩⟩
  · rfl
  · rfl
  · rw [octets]
    cases hbyte : byte? a b with
    | none => rfl
    | some byte =>
      obtain ⟨ha, hb⟩ := isHex_of_byte? hbyte
      rw [startsWithByte, ha, hb] at h
      exact absurd h (by simp)

theorem exists_byte? {high low : Char} (hhigh : isHex high = true) (hlow : isHex low = true) :
    ∃ byte, byte? high low = some byte := by
  obtain ⟨h, hh⟩ := Option.isSome_iff_exists.mp hhigh
  obtain ⟨l, hl⟩ := Option.isSome_iff_exists.mp hlow
  exact ⟨_, by rw [byte?, hh, hl]⟩

/-- The bytes of a percent sequence are replaced by its byte. -/
theorem replaced_escaped {high low : Char} {byte : UInt8} (h : byte? high low = some byte) (t : Text) :
    replaced (Utf8.encode ('%' :: high :: low :: t)) = byte :: replaced (Utf8.encode t) := by
  obtain ⟨hhigh, hlow⟩ := isHex_of_byte? h
  have hback : ∀ {c : Char}, c.toNat < 0x80 → Char.ofNat (UInt8.ofNat c.toNat).toNat = c := by
    intro c hc
    rw [Utf8.toNat_ofNat (by omega), Char.ofNat_toNat]
  have hencode : Utf8.encode ('%' :: high :: low :: t) =
      0x25 :: .ofNat high.toNat :: .ofNat low.toNat :: Utf8.encode t := by
    rw [Utf8.encode_cons, Utf8.encode_cons, Utf8.encode_cons,
      Utf8.encodeChar_of_ascii (isAscii_of_isHex hhigh),
      Utf8.encodeChar_of_ascii (isAscii_of_isHex hlow)]
    rfl
  rw [hencode, replaced, if_pos rfl, hback (isAscii_of_isHex hhigh),
    hback (isAscii_of_isHex hlow), h]

/-- **What a sound text spells are its own bytes with the percent sequences replaced.** -/
theorem octets_eq_replaced : ∀ {t : Text}, isSound t = true → octets t = replaced (Utf8.encode t)
  | [], _ => rfl
  | c :: t, h => by
    rw [isSound, Bool.and_eq_true] at h
    by_cases hc : c = '%'
    · subst hc
      have hstart : startsWithByte t = true := by simpa using h.1
      obtain ⟨high, low, rest, rfl, hhigh, hlow⟩ := startsWithByte_iff.mp hstart
      obtain ⟨byte, hbyte⟩ := exists_byte? hhigh hlow
      have hrest : isSound rest = true := by
        have hsound := h.2
        rw [isSound, Bool.and_eq_true, isSound, Bool.and_eq_true] at hsound
        exact hsound.2.2
      calc octets ('%' :: high :: low :: rest)
        _ = byte :: octets rest := octets_escaped hbyte rest
        _ = byte :: replaced (Utf8.encode rest) := by rw [octets_eq_replaced hrest]
        _ = replaced (Utf8.encode ('%' :: high :: low :: rest)) := (replaced_escaped hbyte rest).symm
    · rw [octets_cons hc, octets_eq_replaced h.2, Utf8.encode_cons,
        replaced_append (ne_percent_of_mem_encodeChar hc)]
termination_by t => t.length

/-! ### Runs -/

/-- Where characters other than ASCII follow, no percent sequence goes on into them. -/
theorem startsWithByte_append (hv : ∀ c, v.head? = some c → isAscii c = false) (u : Text) :
    startsWithByte (u ++ v) = startsWithByte u := by
  have hhex : ∀ c, v.head? = some c → isHex c = false := by
    intro c hc
    refine Bool.eq_false_iff.mpr fun h => ?_
    have hascii := isAscii_iff.mpr (isAscii_of_isHex h)
    rw [hv c hc] at hascii
    exact absurd hascii (by simp)
  rcases v with _ | ⟨c, v⟩
  · rw [List.append_nil]
  · have hc := hhex c rfl
    rcases u with _ | ⟨a, _ | ⟨b, rest⟩⟩
    · rcases v with _ | ⟨d, v⟩
      · rfl
      · simp [startsWithByte, hc]
    · simp [startsWithByte, hc]
    · rfl

/-- **Nothing is spelled across the place** where they start. -/
theorem octets_append (hv : ∀ c, v.head? = some c → isAscii c = false) : ∀ u : Text,
    octets (u ++ v) = octets u ++ octets v
  | [] => rfl
  | c :: u => by
    have hstart := startsWithByte_append hv u
    by_cases hc : c = '%'
    · subst hc
      cases hs : startsWithByte u with
      | true =>
        obtain ⟨high, low, rest, rfl, hhigh, hlow⟩ := startsWithByte_iff.mp hs
        obtain ⟨byte, hbyte⟩ := exists_byte? hhigh hlow
        show octets ('%' :: high :: low :: (rest ++ v)) = _
        rw [octets_escaped hbyte, octets_escaped hbyte, octets_append hv rest, List.cons_append]
      | false =>
        rw [List.cons_append, octets_percent (hstart.trans hs), octets_percent hs,
          octets_append hv u, List.append_assoc]
    · rw [List.cons_append, octets_cons hc, octets_cons hc, octets_append hv u, List.append_assoc]
termination_by u => u.length

/-- A text is nothing, or a run of ASCII characters or of others with a text after it that
does not go on with the run. -/
theorem run_induction {motive : Text → Prop} (nil : motive [])
    (run : ∀ (kind : Bool) (u v : Text), u ≠ [] → (∀ c ∈ u, isAscii c = kind) →
      (∀ c, v.head? = some c → isAscii c = !kind) → motive v → motive (u ++ v)) :
    ∀ t, motive t
  | [] => nil
  | c :: t => by
    have hcut := List.takeWhile_append_dropWhile (p := fun d => isAscii d == isAscii c) (l := t)
    have hshorter := (List.dropWhile_suffix (l := t) fun d => isAscii d == isAscii c).length_le
    have hrest := run_induction nil run (t.dropWhile fun d => isAscii d == isAscii c)
    have hrun :
        ∀ d ∈ c :: t.takeWhile (fun d => isAscii d == isAscii c), isAscii d = isAscii c := by
      refine List.forall_mem_cons.mpr ⟨rfl, fun d hd => ?_⟩
      exact beq_iff_eq.mp (List.mem_takeWhile_imp (p := fun d => isAscii d == isAscii c) hd)
    have hstop : ∀ d, (t.dropWhile fun d => isAscii d == isAscii c).head? = some d →
        isAscii d = !isAscii c := by
      intro d hd
      have hnot := List.head?_dropWhile_not (fun d => isAscii d == isAscii c) t
      rw [hd] at hnot
      exact Bool.eq_not.mpr (beq_eq_false_iff_ne.mp hnot)
    have hwhole := run (isAscii c) _ _ (List.cons_ne_nil _ _) hrun hstop hrest
    rwa [List.cons_append, hcut] at hwhole
termination_by t => t.length
decreasing_by
  rw [List.length_cons]
  omega

theorem runs_append {kind : Bool} (hne : u ≠ []) (hu : ∀ c ∈ u, isAscii c = kind)
    (hv : ∀ c, v.head? = some c → isAscii c = !kind) : runs (u ++ v) = u :: runs v := by
  have happend : runs (u ++ v) = runs u ++ runs v := by
    refine List.splitBy_append fun a ha b hb => ?_
    rw [hu a (List.mem_of_getLast? ha), hv b hb]
    cases kind <;> rfl
  rw [happend, runs_eq_singleton hne hu, List.singleton_append]

/-- Each run is decoded by itself. -/
theorem decode_append {kind : Bool} (hne : u ≠ []) (hu : ∀ c ∈ u, isAscii c = kind)
    (hv : ∀ c, v.head? = some c → isAscii c = !kind) :
    Percent.decode (u ++ v) = (decodeRun u).bind fun x => (Percent.decode v).map (x ++ ·) := by
  unfold Percent.decode
  rw [runs_append hne hu hv, List.mapM_cons]
  cases decodeRun u with
  | error f => rfl
  | ok x => cases (runs v).mapM decodeRun <;> rfl

theorem decodeRun_of_others (hne : u ≠ []) (hu : ∀ c ∈ u, isAscii c = false) :
    decodeRun u = .ok u := by
  refine if_neg fun hall => ?_
  obtain ⟨c, hc⟩ := List.exists_mem_of_ne_nil u hne
  have hascii := List.all_eq_true.mp hall c hc
  rw [hu c hc] at hascii
  exact absurd hascii (by simp)

/-- What is spelled from a character on that is not ASCII starts with a byte that is no tail. -/
theorem head_octets (hv : ∀ c, v.head? = some c → isAscii c = false) {x : UInt8}
    (hx : (octets v).head? = some x) : Utf8.isTail x = false := by
  rcases v with _ | ⟨c, v⟩
  · exact absurd hx (by simp [octets])
  · have hc : c ≠ '%' := by
      rintro rfl
      exact absurd (hv '%' rfl) (by decide)
    obtain ⟨lead, tails, hshape, hlead, -⟩ := Utf8.exists_lead_encodeChar c
    rw [octets_cons hc, hshape] at hx
    rw [← Option.some.inj hx]
    exact hlead

/-- **A text spells a name run by run just when it spells the bytes of the name.** -/
theorem decode_eq_ok (t name : Text) :
    Percent.decode t = .ok name ↔ Utf8.encode name = octets t := by
  induction t using run_induction generalizing name with
  | nil => exact (Utf8.decode_eq_ok : Utf8.decode [] = .ok name ↔ _)
  | run kind u v hne hu hv ih =>
    -- what the two parts spell, each by itself
    have hparts : Percent.decode (u ++ v) = .ok name ↔
        ∃ x y, name = x ++ y ∧ decodeRun u = .ok x ∧ Utf8.encode y = octets v := by
      rw [decode_append hne hu hv]
      simp only [← ih]
      cases decodeRun u with
      | error f => simp [Except.bind]
      | ok x => cases Percent.decode v <;> simp [Except.bind, Except.map, eq_comm]
    rw [hparts]
    cases kind with
    | true =>
      rw [octets_append hv, decodeRun_of_ascii hu]
      simp only [Utf8.decode_eq_ok]
      constructor
      · rintro ⟨x, y, rfl, hx, hy⟩
        rw [Utf8.encode_append, hx, hy]
      · intro h
        obtain ⟨x, y, rfl, hx, hy⟩ := Utf8.encode_split h fun b hb => head_octets hv hb
        exact ⟨x, y, rfl, hx, hy⟩
    | false =>
      have hfree : '%' ∉ u := fun hmem => absurd (hu '%' hmem) (by decide)
      rw [octets_append_of_notMem hfree, decodeRun_of_others hne hu]
      constructor
      · rintro ⟨x, y, rfl, hx, hy⟩
        rw [Utf8.encode_append, Except.ok.inj hx, hy]
      · intro h
        obtain ⟨y, rfl, hy⟩ := Utf8.encode_eq_encode_append h
        exact ⟨u, y, rfl, rfl, hy⟩

/-- **Decoding run by run is decoding as a whole,** where it succeeds and where it fails. -/
theorem decode_eq_ok_iff_replaced (h : isSound t = true) :
    Percent.decode t = .ok name ↔ Utf8.decode (replaced (Utf8.encode t)) = .ok name := by
  rw [decode_eq_ok, octets_eq_replaced h, Utf8.decode_eq_ok]

theorem replaced_ne_nil : ∀ {bs : Bytes}, bs ≠ [] → replaced bs ≠ []
  | [_], _ => List.cons_ne_nil _ _
  | [_, _], _ => List.cons_ne_nil _ _
  | p :: high :: low :: rest, _ => by
    rw [replaced]
    split <;> exact List.cons_ne_nil _ _

end Courier.Percent
