import Courier.Cycle
import Courier.Proofs.Bytes.Runs
import Courier.Proofs.Http.Naming

/-!
# What a raw file name stands for

A raw name with a stray percent sign is refused before anything of it is decoded. Any
other stands for the text of which the bytes are its own with the percent sequences
replaced, although it is decoded run by run, and is refused where no text has those
bytes. No raw name stands for the empty text, so a fallback is taken only
where nothing was captured but white space.

Key definition: `Disposition.spelledBytes`.
Key theorems: `Disposition.decodeName_eq_stray`, `Disposition.decodeName_eq_ok_iff`,
`Disposition.decodeName_eq_notUtf8`, `Disposition.runs_decoded_as_whole`.
-/

namespace Courier.Disposition

variable {value raw name : Text}

/-- The bytes that a raw name spells: its own with the percent sequences replaced. -/
def spelledBytes (raw : Text) : Bytes := Percent.replaced (Utf8.encode raw)

theorem decodeName_of_sound (h : Percent.Sound raw) :
    decodeName raw = (Percent.decode raw).mapError .notUtf8 := if_pos (Percent.isSound_iff.mpr h)

theorem decodeName_of_stray (h : ¬Percent.Sound raw) :
    decodeName raw = .error (.strayPercent raw) :=
  if_neg (mt Percent.isSound_iff.mp h)

/-- Only a stray percent sign is reported as one. -/
theorem decodeName_eq_stray : decodeName raw = .error (.strayPercent raw) ↔ ¬Percent.Sound raw := by
  refine ⟨fun h hsound => ?_, decodeName_of_stray⟩
  rw [decodeName_of_sound hsound] at h
  obtain ⟨f, hf⟩ := mapError_eq_error h
  exact absurd hf (by simp)

/-- **A raw name stands for the text that has the bytes that it spells.** -/
theorem decodeName_eq_ok_iff : decodeName raw = .ok name ↔
    Percent.Sound raw ∧ Utf8.decode (spelledBytes raw) = .ok name := by
  rw [decodeName_eq_ok, Percent.isSound_iff]
  refine and_congr_right fun hsound => ?_
  exact Percent.decode_eq_ok_iff_replaced (Percent.isSound_iff.mpr hsound)

/-- A sound raw name is refused where its bytes are no text's. -/
theorem decodeName_eq_notUtf8 : (∃ f, decodeName raw = .error (.notUtf8 f)) ↔
    Percent.Sound raw ∧ ∃ f, Utf8.decode (spelledBytes raw) = .error f := by
  by_cases hsound : Percent.Sound raw
  · have hruns : (∃ f, decodeName raw = .error (.notUtf8 f)) ↔ ∃ f, Percent.decode raw = .error f := by
      rw [decodeName_of_sound hsound]
      cases Percent.decode raw <;> simp
    have hwhole :
        (∃ f, Percent.decode raw = .error f) ↔ ∃ f, Utf8.decode (spelledBytes raw) = .error f :=
      exists_error_iff fun _ => Percent.decode_eq_ok_iff_replaced (Percent.isSound_iff.mpr hsound)
    rw [hruns, hwhole, and_iff_right hsound]
  · simp [hsound, decodeName_of_stray hsound]

/-- No raw name stands for the empty text. -/
theorem ne_nil_of_decodeName (hne : raw ≠ []) (h : decodeName raw = .ok name) : name ≠ [] := by
  have hbytes := Utf8.decode_eq_ok.mp (decodeName_eq_ok_iff.mp h).2
  rintro rfl
  exact Percent.replaced_ne_nil (Utf8.encode_ne_nil hne) hbytes.symm

/-- What is captured, trimmed and not blank, is what is decoded. -/
theorem fileName?_of_captured (hraw : captured value = some raw) (hne : Text.trim raw ≠ []) :
    fileName? value = (decodeName (Text.trim raw)).map some := by
  unfold fileName?
  rw [hraw, Option.map_some]
  cases htrim : Text.trim raw with
  | nil => exact absurd htrim hne
  | cons c cs => rfl

/-- Nothing is named where the look-up of the field gives nothing, or nothing but white space. -/
theorem fileNameOf_eq_none {looked : Option Text} : fileNameOf looked = .ok none ↔
    ∀ value raw, looked = some value → captured value = some raw → Text.trim raw = [] := by
  cases looked with
  | none => simp [fileNameOf]
  | some value =>
    rw [fileNameOf, fileName?_eq_none]
    constructor
    · rintro h _ raw ⟨⟩
      exact h raw
    · exact fun h raw => h value raw rfl

/-- The archive of a response is called by its name, and by the fallback where it has none. -/
theorem receive_of_fileNameOf {σ : Type} {v : Services σ} {r : Response} {body : Bytes} {s s' : σ}
    {called : Option Text} (hok : r.isSuccess = true)
    (hshown : v.announce Status.generating s = (.ok (), s')) (hbody : r.read = .ok body)
    (hcalled : fileNameOf (r.headers.get? dispositionField) = .ok called) :
    Cycle.receive v r s = (.ok (.success body (called.getD v.fallbackName) r.status),
      if called = none then v.note .debug (Cycle.unnamedRecord v.fallbackName) s' else s') := by
  rw [Cycle.receive, if_pos hok, hshown]
  simp only [hbody, hcalled]
  cases called <;> rfl

/-- **Decoding a raw name run by run is decoding it as a whole.** Where every percent sign in it
has its digits, the name is the text that has the bytes which the raw name spells, and it is
refused as no UTF-8 just where those are no text's. Any other raw name is refused for its
percent sign. A name is never empty, so nothing is named just where nothing but white
space was captured; and of a response that names nothing the archive gets the fallback. -/
theorem runs_decoded_as_whole (value : Text) :
    (∀ raw, captured value = some raw → Text.trim raw ≠ [] →
      (Percent.Sound (Text.trim raw) →
        (∀ name, fileName? value = .ok (some name) ↔
          Utf8.decode (spelledBytes (Text.trim raw)) = .ok name) ∧
        ((∃ f, fileName? value = .error (.notUtf8 f)) ↔
          ∃ f, Utf8.decode (spelledBytes (Text.trim raw)) = .error f)) ∧
      (¬Percent.Sound (Text.trim raw) → fileName? value = .error (.strayPercent (Text.trim raw)))) ∧
    (∀ name, fileName? value = .ok (some name) → name ≠ []) ∧
    (∀ looked, fileNameOf looked = .ok none ↔
      ∀ v raw, looked = some v → captured v = some raw → Text.trim raw = []) ∧
    (∀ {σ : Type} (v : Services σ) (r : Response) (body : Bytes) (s s' : σ) (called : Option Text),
      r.isSuccess = true → v.announce Status.generating s = (.ok (), s') → r.read = .ok body →
      fileNameOf (r.headers.get? dispositionField) = .ok called →
      Cycle.receive v r s = (.ok (.success body (called.getD v.fallbackName) r.status),
        if called = none then v.note .debug (Cycle.unnamedRecord v.fallbackName) s' else s')) := by
  refine ⟨fun raw hraw hne => ?_, fun name hname => ?_, fun looked => fileNameOf_eq_none,
    fun v r body s s' called => receive_of_fileNameOf⟩
  · have hvalue := fileName?_of_captured hraw hne
    refine ⟨fun hsound => ⟨fun name => ?_, ?_⟩, fun hstray => ?_⟩
    · rw [hvalue, map_some_eq_ok, decodeName_eq_ok_iff, and_iff_right hsound]
    · simp only [hvalue, map_some_eq_error]
      rw [decodeName_eq_notUtf8, and_iff_right hsound]
    · rw [hvalue, decodeName_of_stray hstray]
      rfl
  · obtain ⟨raw, -, hne, hdecode⟩ := fileName?_eq_some.mp hname
    exact ne_nil_of_decodeName hne (decodeName_eq_ok.mpr hdecode)

/-- A name of which one letter is spelled in part by percent sequences only, one by itself. -/
theorem letters_decoded_as_whole :
    captured "attachment; filename=\" d%C6%B0é.zip\"".toList = some " d%C6%B0é.zip".toList ∧
      Percent.Sound "d%C6%B0é.zip".toList ∧
      fileName? "attachment; filename=\" d%C6%B0é.zip\"".toList = .ok (some "dưé.zip".toList) := by
  have hcaptured : captured "attachment; filename=\" d%C6%B0é.zip\"".toList =
      some " d%C6%B0é.zip".toList := by decide +kernel
  have htrim : Text.trim " d%C6%B0é.zip".toList = "d%C6%B0é.zip".toList := by decide
  have hsound : Percent.Sound "d%C6%B0é.zip".toList := Percent.isSound_iff.mp (by decide)
  have hwhole := (runs_decoded_as_whole _).1 _ hcaptured (by rw [htrim]; decide)
  rw [htrim] at hwhole
  refine ⟨hcaptured, hsound, ((hwhole.1 hsound).1 _).mpr (Utf8.decode_eq_ok.mpr ?_)⟩
  show Utf8.encode "dưé.zip".toList = Percent.replaced (Utf8.encode "d%C6%B0é.zip".toList)
  decide +kernel

end Courier.Disposition
