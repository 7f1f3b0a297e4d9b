import Courier.Proofs.Bytes.Percent
import Courier.Proofs.Http.Fields
import Courier.Proofs.Http.Naming

/-!
# The extended form of a file name

The first extended form in a value is found, wherever it stands and whatever
stands around it, and the name in it is the one that was encoded: the marker
cannot be found across its own start, an encoding holds nothing that could end
it, and it is read back.

Key theorems: `Disposition.captured_extended`, `Disposition.fileName?_extended`,
`Disposition.extended_name_wins`.
-/

namespace Courier.Disposition

variable {before marker encoded after name : Text}

theorem extendedMarker_ascii : ∀ p ∈ extendedMarker, p.toNat < 0x80 := by
  have hall : extendedMarker.all (·.toNat < 0x80) = true := by decide
  simpa using hall

theorem extendedMarker_unbordered : Text.Unbordered extendedMarker := by
  unfold Text.Unbordered
  decide

/-- A text that ends an extended name before it: no text at all, or one that starts with a
semicolon or a line end. -/
def EndsExtended (after : Text) : Prop :=
  ∀ c, after.head? = some c → c = ';' ∨ c = '\r' ∨ c = '\n'

theorem inExtended_of_isGraphic {c : Char} (h : Percent.IsGraphic c) : inExtended c = true := by
  have hspace := h.afterSpace
  have hne : c ≠ '\n' ∧ c ≠ '\r' := by
    constructor <;> rintro rfl <;> exact absurd hspace (by decide)
  simp [inExtended, h.ne_semicolon, hne.1, hne.2]

theorem takeWhile_inExtended (hin : ∀ c ∈ encoded, inExtended c = true) (hends : EndsExtended after) :
    (encoded ++ after).takeWhile inExtended = encoded := by
  refine Text.takeWhile_run hin fun c hc => ?_
  rcases hends c hc with rfl | rfl | rfl <;> rfl

/-- What stands right after a marker is its name. -/
theorem extendedHere?_marker (hm : Text.Spells marker extendedMarker) (hne : encoded ≠ [])
    (hin : ∀ c ∈ encoded, inExtended c = true) (hends : EndsExtended after) :
    extendedHere? (marker ++ (encoded ++ after)) = some encoded := by
  obtain ⟨c, cs, rfl⟩ := List.exists_cons_of_ne_nil hne
  rw [extendedHere?, Text.dropCaseless?_eq_some.mpr ⟨marker, hm, rfl⟩, Option.bind_some,
    takeWhile_inExtended hin hends]
  rfl

/-- **The first extended form is captured,** whatever stands before it and after it. -/
theorem captured_extended (hfree : ¬Text.Holds before extendedMarker)
    (hm : Text.Spells marker extendedMarker) (hne : encoded ≠ [])
    (hin : ∀ c ∈ encoded, inExtended c = true) (hends : EndsExtended after) :
    captured (before ++ marker ++ encoded ++ after) = some encoded := by
  have hhere := extendedHere?_marker hm hne hin hends
  have hfound : Text.searchFor extendedHere? (before ++ (marker ++ (encoded ++ after))) =
      some encoded := by
    refine Text.searchFor_marker extendedMarker_ascii extendedMarker_unbordered (by decide) hm hfree
      (fun t ht => ?_) hhere
    rw [extendedHere?, ht, Option.bind_none]
  rw [captured, List.append_assoc, List.append_assoc, hfound, Option.some_or]

/-- **The name of the first extended form is the one that was encoded.** -/
theorem fileName?_extended (hfree : ¬Text.Holds before extendedMarker)
    (hm : Text.Spells marker extendedMarker) (hname : name ≠ [])
    (he : Percent.Encodes (Utf8.encode name) encoded) (hends : EndsExtended after) :
    fileName? (before ++ marker ++ encoded ++ after) = .ok (some name) := by
  have hne := he.ne_nil (Utf8.encode_ne_nil hname)
  have hcaptured := captured_extended hfree hm hne
    (fun c hc => inExtended_of_isGraphic (he.isGraphic c hc)) hends
  rw [fileName?_eq_some]
  refine ⟨encoded, hcaptured, ?_⟩
  rw [Text.trim_eq_self he.isTrimmed]
  exact ⟨hne, he.isSound, he.decode hname⟩

theorem dispositionField_ascii : ∀ c ∈ dispositionField, c.toNat < 0x80 := by
  have hall : dispositionField.all (·.toNat < 0x80) = true := by decide
  simpa using hall

theorem dispositionField_cased : Text.CasedAs dispositionField dispositionField := by
  unfold Text.CasedAs
  decide

/-- **The extended form round-trips and always wins.** A name that is percent-encoded in any
way, behind a marker in any letter case, is the file name of a value, whatever stands before
the marker, unless that holds a marker of its own, and whatever stands after the encoding,
if that ends it. It is also the file name that a table of header fields gives, or a list of
received ones, when the only Content-Disposition field in it, however it is cased, has the
value. A received value is to be ASCII. -/
theorem extended_name_wins (hfree : ¬Text.Holds before extendedMarker)
    (hm : Text.Spells marker extendedMarker) (hname : name ≠ [])
    (he : Percent.Encodes (Utf8.encode name) encoded) (hends : EndsExtended after)
    {field : Text} (hfield : Text.CasedAs field dispositionField) :
    fileName? (before ++ marker ++ encoded ++ after) = .ok (some name) ∧
      (∀ fields fields' : HeaderTable,
        (∀ other ∈ fields ++ fields', ¬Text.CasedAs other.1 dispositionField) →
        fileNameOf ((fields ++ (field, some (before ++ marker ++ encoded ++ after)) :: fields').get?
          dispositionField) = .ok (some name)) ∧
      ((∀ c ∈ before ++ marker ++ after, Percent.isAscii c = true) →
        ∀ fields fields' : Headers,
        (∀ other ∈ fields ++ fields',
          other.name.map Headers.smallByte ≠ Utf8.encode dispositionField) →
        fileNameOf ((fields ++ ⟨Utf8.encode field,
          Utf8.encode (before ++ marker ++ encoded ++ after)⟩ :: fields').get? dispositionField) =
            .ok (some name)) := by
  have hvalue := fileName?_extended hfree hm hname he hends
  refine ⟨hvalue, fun fields fields' honly => ?_, fun hascii fields fields' honly => ?_⟩
  · rw [HeaderTable.get?_of_only dispositionField_cased hfield honly]
    exact hvalue
  · rw [Headers.get?_of_only dispositionField_ascii hfield ?_ honly]
    · exact hvalue
    · intro c hc
      have hencoded := fun h => (he.isGraphic c h).isAscii
      simp only [List.mem_append] at hc hascii
      refine of_decide_eq_true ?_
      rcases hc with ((hc | hc) | hc) | hc
      · exact hascii c (Or.inl (Or.inl hc))
      · exact hascii c (Or.inl (Or.inr hc))
      · exact hencoded hc
      · exact hascii c (Or.inr hc)

/-- A name with a semicolon in it, encoded with digits of either case. -/
theorem encodes_semicolon :
    Percent.Encodes (Utf8.encode "é;.zip".toList) "%C3%a9%3B.zip".toList := by
  refine .escaped (by rfl) (by rfl) (.escaped (by rfl) (by rfl) (.escaped (by rfl) (by rfl) ?_))
  exact .plain (by decide) (.plain (by decide) (.plain (by decide) (.plain (by decide) .nil)))

/-- Beside plain forms, with stray percent signs and another extended form around it, the
first extended form wins. -/
theorem extended_beside_plain :
    ¬Text.Holds "attachment; filename=\"50%.zip\"; ".toList extendedMarker ∧
      Text.Spells "FILEname*=Utf-8''".toList extendedMarker ∧
      EndsExtended "; filename=100%; filename*=UTF-8''b".toList ∧
      Text.CasedAs "Content-DISPOSITION".toList dispositionField ∧
      fileNameOf (HeaderTable.get? [("Server".toList, none), ("Content-DISPOSITION".toList,
        some ("attachment; filename=\"50%.zip\"; ".toList ++ "FILEname*=Utf-8''".toList ++
          "%C3%a9%3B.zip".toList ++ "; filename=100%; filename*=UTF-8''b".toList))]
        dispositionField) = .ok (some "é;.zip".toList) := by
  have hfree : ¬Text.Holds "attachment; filename=\"50%.zip\"; ".toList extendedMarker := by decide
  have hm : Text.Spells "FILEname*=Utf-8''".toList extendedMarker := by
    unfold Text.Spells
    decide
  have hends : EndsExtended "; filename=100%; filename*=UTF-8''b".toList := by
    intro c hc
    exact Or.inl (Option.some.inj hc).symm
  have hfield : Text.CasedAs "Content-DISPOSITION".toList dispositionField := by
    unfold Text.CasedAs
    decide
  refine ⟨hfree, hm, hends, hfield, ?_⟩
  refine (extended_name_wins hfree hm (by decide) encodes_semicolon hends hfield).2.1
    [("Server".toList, none)] [] fun other hother => ?_
  rw [List.append_nil, List.mem_singleton] at hother
  rw [hother]
  unfold Text.CasedAs
  decide

end Courier.Disposition
