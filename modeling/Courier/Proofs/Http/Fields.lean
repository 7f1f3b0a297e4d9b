import Courier.Http.Headers
import Courier.Proofs.Bytes.Utf8
import Courier.Proofs.Text.Caseless

/-!
# The only field of a name

Where just one field has a name, however that is cased, its value is what is
found under the name. A value of a received field that is ASCII is read as it
stands, whatever the other fields hold.

Key theorems: `HeaderTable.get?_of_only`, `Headers.get?_of_only`.
-/

namespace Courier

variable {name spelling value : Text}

/-- The name in some letter case. -/
def Text.CasedAs (spelling name : Text) : Prop := spelling.map Char.toLower = name

namespace HeaderTable

/-- **The only field of a name in a table has its value found.** -/
theorem get?_of_only {before after : HeaderTable} (hname : Text.CasedAs name name)
    (hspelling : Text.CasedAs spelling name)
    (honly : ∀ field ∈ before ++ after, ¬Text.CasedAs field.1 name) :
    get? (before ++ (spelling, some value) :: after) name = some value := by
  have hbefore : ∀ field ∈ before, (field.1.map Char.toLower == name) = false := fun field hf =>
    beq_eq_false_iff_ne.mpr (honly field (List.mem_append_left _ hf))
  have hfind : (before ++ (spelling, some value) :: after).find?
      (fun field => field.1.map Char.toLower == name) = some (spelling, some value) := by
    rw [List.find?_append, List.find?_eq_none.mpr fun field hf => by simp [hbefore field hf],
      Option.none_or]
    exact List.find?_cons_of_pos (beq_iff_eq.mpr hspelling)
  -- under the very name stands the value or nothing
  have hlookup : ((before ++ (spelling, some value) :: after).lookup name).join = none ∨
      ((before ++ (spelling, some value) :: after).lookup name).join = some value := by
    cases hl : (before ++ (spelling, some value) :: after).lookup name with
    | none => exact Or.inl rfl
    | some found =>
      obtain ⟨l₁, l₂, hl', -⟩ := List.lookup_eq_some_iff.mp hl
      have hmem : (name, found) ∈ before ++ (spelling, some value) :: after := by
        rw [hl']
        simp
      right
      rcases List.mem_append.mp hmem with hm | hm
      · exact absurd hname (honly _ (List.mem_append_left _ hm))
      · rcases List.mem_cons.mp hm with hm | hm
        · rw [(Prod.mk.inj hm).2]
          rfl
        · exact absurd hname (honly _ (List.mem_append_right _ hm))
  unfold get?
  rw [hfind]
  rcases hlookup with h | h <;> rw [h] <;> rfl

end HeaderTable

namespace Headers

theorem smallByte_ofNat {n : Nat} (h : n < 0x80) :
    smallByte (.ofNat n) = .ofNat (if 65 ≤ n ∧ n ≤ 90 then n + 32 else n) := by
  have hall : ∀ m < 0x80, smallByte (.ofNat m) = .ofNat (if 65 ≤ m ∧ m ≤ 90 then m + 32 else m) := by
    decide
  exact hall n h

/-- The bytes of a name in some letter case, made small, are those of the name. -/
theorem map_smallByte_encode : ∀ {spelling name : Text}, (∀ c ∈ name, c.toNat < 0x80) →
    Text.CasedAs spelling name → (Utf8.encode spelling).map smallByte = Utf8.encode name
  | [], name, _, h => by
    rw [← show _ = name from h]
    rfl
  | c :: cs, name, hascii, h => by
    rw [← show _ = name from h] at hascii ⊢
    rw [List.map_cons, List.forall_mem_cons] at hascii
    have hlower := Text.toNat_toLower c
    have hc : c.toNat < 0x80 := by
      have := hascii.1
      split at hlower <;> omega
    have ih := map_smallByte_encode hascii.2 rfl
    rw [List.map_cons, Utf8.encode, Utf8.encode, List.flatMap_cons, List.flatMap_cons,
      List.map_append, ← Utf8.encode, ← Utf8.encode, ih, Utf8.encodeChar_of_ascii hc,
      Utf8.encodeChar_of_ascii hascii.1, List.map_singleton, smallByte_ofNat hc, hlower]

theorem latin1_encode : ∀ {value : Text}, (∀ c ∈ value, c.toNat < 0x80) →
    Latin1.decode (Utf8.encode value) = value
  | [], _ => rfl
  | c :: cs, h => by
    rw [List.forall_mem_cons] at h
    have ih := latin1_encode h.2
    unfold Latin1.decode at ih ⊢
    rw [Utf8.encode, List.flatMap_cons, List.map_append, ← Utf8.encode, ih,
      Utf8.encodeChar_of_ascii h.1, List.map_singleton, Utf8.toNat_ofNat (by omega), Char.ofNat_toNat]
    rfl

/-- Whatever the other fields hold, an ASCII value is read as it stands. -/
theorem reader_encode (hs : Headers) (h : ∀ c ∈ value, c.toNat < 0x80) :
    reader hs (Utf8.encode value) = value := by
  unfold reader
  split
  · exact Utf8.decodeLossy_encode value
  · exact latin1_encode h

/-- **The only field of a name among received ones has its value found.** -/
theorem get?_of_only {before after : Headers} (hname : ∀ c ∈ name, c.toNat < 0x80)
    (hspelling : Text.CasedAs spelling name) (hvalue : ∀ c ∈ value, c.toNat < 0x80)
    (honly : ∀ field ∈ before ++ after, field.name.map smallByte ≠ Utf8.encode name) :
    get? (before ++ ⟨Utf8.encode spelling, Utf8.encode value⟩ :: after) name = some value := by
  have hskip : ∀ part : Headers, (∀ field ∈ part, field ∈ before ++ after) →
      part.filter (fun field => field.name.map smallByte == Utf8.encode name) = [] := by
    refine fun part hpart => List.filter_eq_nil_iff.mpr fun field hf => ?_
    simpa using honly field (hpart field hf)
  have hvalues : values (before ++ ⟨Utf8.encode spelling, Utf8.encode value⟩ :: after) name =
      [Utf8.encode value] := by
    unfold values
    rw [List.filter_append, hskip before fun _ hf => List.mem_append_left _ hf,
      List.filter_cons_of_pos (by simpa using map_smallByte_encode hname hspelling),
      hskip after fun _ hf => List.mem_append_right _ hf]
    rfl
  rw [get?, hvalues]
  simp [reader_encode _ hvalue]

end Headers
end Courier
