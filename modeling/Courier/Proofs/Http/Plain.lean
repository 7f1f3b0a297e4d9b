import Courier.Proofs.Http.Decoding
import Courier.Proofs.Http.Forms

/-!
# The plain form of a file name

The first plain form in a value is read as it was written, whatever white space stands
around its equals sign: in double quotes the name may have white space at its ends and
anything may follow, bare it starts with none and a semicolon or a double quote ends
it. What is read is the trimmed name, and neither what stands before the form nor
what follows it matters.

Key definition: `Disposition.Writes`.
Key theorems: `Disposition.plainValue?_of_writes`, `Disposition.captured_plain`,
`Disposition.plain_name_read`.
-/

namespace Courier.Disposition

variable {before marker gap gap' n after written value : Text}

theorem plainMarker_ascii : ∀ p ∈ plainMarker, p.toNat < 0x80 := by
  have hall : plainMarker.all (·.toNat < 0x80) = true := by decide
  simpa using hall

theorem plainMarker_unbordered : Text.Unbordered plainMarker := by
  unfold Text.Unbordered
  decide

/-- The ways to write a name after the equals sign. In double quotes it is to be more than
white space, and anything may follow; bare it is not to start with white
space, and a semicolon or a double quote ends it, or the end of the value does. -/
inductive Writes (n : Text) : Text → Prop
  | quoted (after : Text) (hin : ∀ c ∈ n, c ≠ '"' ∧ c ≠ ';') (hblank : ¬Text.Blank n) :
      Writes n ('"' :: (n ++ '"' :: after))
  | bare (after : Text) (hin : ∀ c ∈ n, c ≠ '"' ∧ c ≠ ';') (hne : n ≠ [])
      (hhead : ∀ c, n.head? = some c → Text.isBlank c = false)
      (hends : ∀ c, after.head? = some c → c = ';' ∨ c = '"') : Writes n (n ++ after)

/-- The name of what is written, up to what ends it. -/
theorem takeWhile_inPlain (hin : ∀ c ∈ n, c ≠ '"' ∧ c ≠ ';')
    (hends : ∀ c, after.head? = some c → c = ';' ∨ c = '"') : (n ++ after).takeWhile inPlain = n := by
  refine Text.takeWhile_run (fun c hc => ?_) fun c hc => ?_
  · simp [inPlain, hin c hc]
  · rcases hends c hc with rfl | rfl <;> rfl

/-- More than white space is left of a name when it is trimmed. -/
theorem Writes.trim_ne_nil (h : Writes n written) : Text.trim n ≠ [] := by
  cases h with
  | quoted after hin hblank => exact fun htrim => hblank (Text.trim_eq_nil.mp htrim)
  | bare after hin hne hhead hends =>
    intro htrim
    obtain ⟨c, cs, rfl⟩ := List.exists_cons_of_ne_nil hne
    have hc : Text.isBlank c = true := Text.trim_eq_nil.mp htrim c List.mem_cons_self
    rw [hhead c rfl] at hc
    exact absurd hc (by simp)

/-- **What is written is what is read,** after any white space. -/
theorem plainValue?_of_writes (hgap : Text.Blank gap) (h : Writes n written) :
    plainValue? (gap ++ written) = some n := by
  have hne : n ≠ [] := by
    rintro rfl
    exact h.trim_ne_nil rfl
  -- the white space is skipped whole, and so is a double quote
  have hname : (dropQuote ((gap ++ written).dropWhile Text.isBlank)).takeWhile inPlain = n := by
    rw [List.dropWhile_append_of_pos hgap]
    cases h with
    | quoted after hin hblank =>
      exact takeWhile_inPlain hin fun c hc => Or.inr (Option.some.inj hc).symm
    | bare after hin _ hhead hends =>
      have hkept : (n ++ after).dropWhile Text.isBlank = n ++ after := by
        refine Text.trimLeft_eq_self fun c hc => hhead c ?_
        rwa [List.head?_append_of_ne_nil _ hne] at hc
      have hbare : dropQuote (n ++ after) = n ++ after := by
        obtain ⟨c, cs, rfl⟩ := List.exists_cons_of_ne_nil hne
        simp [dropQuote, (hin c List.mem_cons_self).1]
      rw [hkept, hbare]
      exact takeWhile_inPlain hin hends
  obtain ⟨c, cs, rfl⟩ := List.exists_cons_of_ne_nil hne
  rw [plainValue?, hname]
  rfl

/-- White space before the equals sign is skipped. -/
theorem plainAfter?_gap (hgap : Text.Blank gap) (t : Text) :
    plainAfter? (gap ++ '=' :: t) = plainValue? t := by
  have hdrop : (gap ++ '=' :: t).dropWhile Text.isBlank = '=' :: t := by
    rw [List.dropWhile_append_of_pos hgap]
    rfl
  rw [plainAfter?, hdrop]
  rfl

/-- Where no marker stands, no extended form does. -/
theorem searchFor_extended_eq_none (h : ¬Text.Holds value extendedMarker) :
    Text.searchFor extendedHere? value = none := by
  by_contra hsome
  obtain ⟨found, hfound⟩ := Option.ne_none_iff_exists'.mp hsome
  obtain ⟨q, hq, hhere⟩ := Text.exists_of_searchFor hfound
  obtain ⟨rest, hrest, -⟩ := Option.bind_eq_some_iff.mp hhere
  exact h ((Text.holds_of_dropCaseless? hrest).of_suffix hq)

/-- **The first plain form is captured,** whatever stands before it and after it. -/
theorem captured_plain (hvalue : value = before ++ marker ++ gap ++ '=' :: (gap' ++ written))
    (hextended : ¬Text.Holds value extendedMarker) (hfree : ¬Text.Holds before plainMarker)
    (hm : Text.Spells marker plainMarker) (hgap : Text.Blank gap) (hgap' : Text.Blank gap')
    (h : Writes n written) : captured value = some n := by
  have hhere : plainHere? (marker ++ (gap ++ '=' :: (gap' ++ written))) = some n := by
    calc plainHere? (marker ++ (gap ++ '=' :: (gap' ++ written)))
      _ = plainAfter? (gap ++ '=' :: (gap' ++ written)) := by
        rw [plainHere?_eq, Text.dropCaseless?_eq_some.mpr ⟨marker, hm, rfl⟩, Option.bind_some]
      _ = plainValue? (gap' ++ written) := plainAfter?_gap hgap _
      _ = some n := plainValue?_of_writes hgap' h
  have hplain : Text.searchFor plainHere? value = some n := by
    rw [hvalue, List.append_assoc, List.append_assoc]
    refine Text.searchFor_marker plainMarker_ascii plainMarker_unbordered (by decide) hm hfree
      (fun t ht => ?_) hhere
    rw [plainHere?_eq, ht, Option.bind_none]
  rw [captured, searchFor_extended_eq_none hextended, hplain, Option.none_or]

/-- **The plain form is read as it was written.** Where a value holds no extended form, the name of
its first plain one, trimmed, is what is decoded: it is refused for a percent sign just
when one lacks its digits, and as no UTF-8 just when all have them but no text has the
bytes that it spells; else the text that has those bytes is the file name. -/
theorem plain_name_read (hvalue : value = before ++ marker ++ gap ++ '=' :: (gap' ++ written))
    (hextended : ¬Text.Holds value extendedMarker) (hfree : ¬Text.Holds before plainMarker)
    (hm : Text.Spells marker plainMarker) (hgap : Text.Blank gap) (hgap' : Text.Blank gap')
    (h : Writes n written) :
    fileName? value = (decodeName (Text.trim n)).map some ∧
      (fileName? value = .error (.strayPercent (Text.trim n)) ↔ ¬Percent.Sound (Text.trim n)) ∧
      ((∃ f, fileName? value = .error (.notUtf8 f)) ↔
        Percent.Sound (Text.trim n) ∧ ∀ name, Utf8.encode name ≠ spelledBytes (Text.trim n)) ∧
      (∀ name, fileName? value = .ok (some name) ↔
        Percent.Sound (Text.trim n) ∧ Utf8.encode name = spelledBytes (Text.trim n)) := by
  have hcaptured := captured_plain hvalue hextended hfree hm hgap hgap' h
  have hread := fileName?_of_captured hcaptured h.trim_ne_nil
  refine ⟨hread, ?_, ?_, fun name => ?_⟩
  · rw [hread, map_some_eq_error, decodeName_eq_stray]
  · simp only [hread, map_some_eq_error]
    rw [decodeName_eq_notUtf8, Utf8.exists_decode_eq_error]
  · rw [hread, map_some_eq_ok, decodeName_eq_ok_iff, Utf8.decode_eq_ok]

/-- With a dotless i in the word, white space of many kinds and another form after it, a plain
form is read. -/
theorem plain_name_among_others :
    ¬Text.Holds "inline; name=f; ".toList plainMarker ∧
      Text.Spells "F\u0131leName".toList plainMarker ∧
      Text.Blank "\t\u00a0".toList ∧ Text.Blank "\u2003".toList ∧
      Writes " d%C3%A9 \u00e9.zip ".toList
        ('"' :: (" d%C3%A9 \u00e9.zip ".toList ++ '"' :: "x\"; filename=100%".toList)) ∧
      fileName? ("inline; name=f; F\u0131leName\t\u00a0=\u2003".toList ++
          "\" d%C3%A9 \u00e9.zip \"x\"; filename=100%".toList) =
        .ok (some "d\u00e9 \u00e9.zip".toList) := by
  have hfree : ¬Text.Holds "inline; name=f; ".toList plainMarker := by decide +kernel
  have hm : Text.Spells "F\u0131leName".toList plainMarker := by decide +kernel
  have hgap : Text.Blank "\t\u00a0".toList := by decide +kernel
  have hgap' : Text.Blank "\u2003".toList := by decide +kernel
  have hin : " d%C3%A9 \u00e9.zip ".toList.all (fun c => c != '"' && c != ';') = true := by
    decide +kernel
  have hw : Writes " d%C3%A9 \u00e9.zip ".toList
      ('"' :: (" d%C3%A9 \u00e9.zip ".toList ++ '"' :: "x\"; filename=100%".toList)) :=
    .quoted _ (fun c hc => by simpa using List.all_eq_true.mp hin c hc) (by decide +kernel)
  refine ⟨hfree, hm, hgap, hgap', hw, ?_⟩
  refine ((plain_name_read (by decide +kernel) (by decide +kernel) hfree hm hgap hgap'
    hw).2.2.2 _).mpr ?_
  exact ⟨Percent.isSound_iff.mp (by decide +kernel), by decide +kernel⟩

end Courier.Disposition
