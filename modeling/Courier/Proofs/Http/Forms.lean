import Courier.Proofs.Http.Extended
import Courier.Proofs.Text.Trim

/-!
# Where the forms of a file name end

Neither form of a file name goes on beyond a semicolon, whether that stands in double
quotes or not, so a value is searched piece by piece between its semicolons. A
plain form ends at a double quote besides. What is captured stands in the value and holds no
semicolon, and without percent signs it is the name but for white space around it.

Key definitions: `Disposition.EndsPlain`, `Disposition.Opens`.
Key theorems: `Disposition.extendedHere?_append`, `Disposition.plainHere?_append`,
`Disposition.searchFor_append_of_opens`, `Disposition.fileName?_of_notMem`.
-/

namespace Courier.Disposition

variable {after raw value : Text}

/-! ### What ends a form -/

theorem takeWhile_append_of_end {p : Char → Bool} (hend : after.takeWhile p = []) :
    ∀ t : Text, (t ++ after).takeWhile p = t.takeWhile p
  | [] => hend
  | c :: t => by
    rw [List.cons_append, List.takeWhile_cons, List.takeWhile_cons, takeWhile_append_of_end hend t]

/-- A text that ends a plain name before it: no text at all, one that starts with a semicolon, or
a double quote that such a text follows. -/
inductive EndsPlain : Text → Prop
  | nil : EndsPlain []
  | semicolon (t : Text) : EndsPlain (';' :: t)
  | quote : EndsPlain ['"']

theorem EndsPlain.head (h : EndsPlain after) {c : Char} (hc : after.head? = some c) :
    c = ';' ∨ c = '"' := by
  cases h with
  | nil => exact absurd hc (by simp)
  | semicolon t => exact Or.inl (Option.some.inj hc).symm
  | quote => exact Or.inr (Option.some.inj hc).symm

theorem notFolded_of_all {marker : Text} {c : Char} (h : marker.all (!Text.foldsTo · c) = true) :
    ∀ p ∈ marker, Text.foldsTo p c = false := by
  simpa using h

/-- **An extended form does not go on** beyond what ends it. -/
theorem extendedHere?_append (hends : EndsExtended after) (t : Text) :
    extendedHere? (t ++ after) = extendedHere? t := by
  have hstop : ∀ c, after.head? = some c → ∀ p ∈ extendedMarker, Text.foldsTo p c = false := by
    intro c hc
    rcases hends c hc with rfl | rfl | rfl <;> exact notFolded_of_all (by decide)
  have hend : after.takeWhile inExtended = [] := Text.takeWhile_eq_nil fun c hc => by
    rcases hends c hc with rfl | rfl | rfl <;> rfl
  rw [extendedHere?, extendedHere?, Text.dropCaseless?_append hstop]
  cases Text.dropCaseless? extendedMarker t with
  | none => rfl
  | some rest =>
    show nonempty? ((rest ++ after).takeWhile inExtended) = nonempty? (rest.takeWhile inExtended)
    rw [takeWhile_append_of_end hend]

theorem dropQuote_append {t : Text} (hne : t ≠ []) (after : Text) :
    dropQuote (t ++ after) = dropQuote t ++ after := by
  obtain ⟨c, cs, rfl⟩ := List.exists_cons_of_ne_nil hne
  by_cases hc : c = '"'
  · subst hc
    rfl
  · simp [dropQuote, hc]

theorem plainValue?_append (hends : EndsPlain after) (t : Text) :
    plainValue? (t ++ after) = plainValue? t := by
  have hblank : ∀ c, after.head? = some c → Text.isBlank c = false := by
    intro c hc
    rcases hends.head hc with rfl | rfl <;> rfl
  have hin : after.takeWhile inPlain = [] := Text.takeWhile_eq_nil fun c hc => by
    rcases hends.head hc with rfl | rfl <;> rfl
  have hname : (dropQuote ((t ++ after).dropWhile Text.isBlank)).takeWhile inPlain =
      (dropQuote (t.dropWhile Text.isBlank)).takeWhile inPlain := by
    rw [List.dropWhile_append]
    cases hdrop : t.dropWhile Text.isBlank with
    | nil =>
      have hleft : after.dropWhile Text.isBlank = after := Text.trimLeft_eq_self hblank
      rw [List.isEmpty_nil, if_pos rfl, hleft]
      cases hends <;> rfl
    | cons c cs =>
      rw [List.isEmpty_cons, if_neg (by simp), dropQuote_append (by simp),
        takeWhile_append_of_end hin]
  rw [plainValue?, plainValue?, hname, takeWhile_append_of_end (Text.takeWhile_eq_nil hblank)]

/-- The name of a plain form of which the text follows the word. -/
def plainAfter? (t : Text) : Option Text :=
  match t.dropWhile Text.isBlank with
  | '=' :: value => plainValue? value
  | _ => none

theorem plainHere?_eq (t : Text) :
    plainHere? t = (Text.dropCaseless? plainMarker t).bind plainAfter? := rfl

/-- Only an equals sign goes on with a plain form. -/
theorem plainAfter?_cons {c : Char} (hblank : Text.isBlank c = false) (hc : c ≠ '=') (t : Text) :
    plainAfter? (c :: t) = none := by
  rw [plainAfter?, List.dropWhile_cons_of_neg (by simp [hblank])]
  split
  · rename_i heq
    exact absurd (List.cons.inj heq).1 hc
  · rfl

theorem plainAfter?_append (hends : EndsPlain after) (t : Text) :
    plainAfter? (t ++ after) = plainAfter? t := by
  rw [plainAfter?, plainAfter?, List.dropWhile_append]
  cases t.dropWhile Text.isBlank with
  | nil => cases hends <;> rfl
  | cons c cs =>
    rw [List.isEmpty_cons, if_neg (by simp)]
    by_cases hc : c = '='
    · subst hc
      exact plainValue?_append hends cs
    · simp [hc]

/-- **A plain form does not go on** beyond what ends it. -/
theorem plainHere?_append (hends : EndsPlain after) (t : Text) :
    plainHere? (t ++ after) = plainHere? t := by
  have hstop : ∀ c, after.head? = some c → ∀ p ∈ plainMarker, Text.foldsTo p c = false := by
    intro c hc
    rcases hends.head hc with rfl | rfl <;> exact notFolded_of_all (by decide)
  rw [plainHere?_eq, plainHere?_eq, Text.dropCaseless?_append hstop]
  cases Text.dropCaseless? plainMarker t with
  | none => rfl
  | some rest => exact plainAfter?_append hends rest

/-! ### What is found in two texts -/

/-- A text that a semicolon opens, or no text. -/
def Opens (after : Text) : Prop := ∀ c, after.head? = some c → c = ';'

theorem Opens.endsPlain (h : Opens after) : EndsPlain after := by
  cases after with
  | nil => exact .nil
  | cons c cs =>
    obtain rfl := h c rfl
    exact .semicolon cs

/-- **A semicolon parts every search,** be it in double quotes or not. -/
theorem searchFor_append_of_opens (h : Opens after) (t : Text) :
    Text.searchFor extendedHere? (t ++ after) =
        (Text.searchFor extendedHere? t).or (Text.searchFor extendedHere? after) ∧
      Text.searchFor plainHere? (t ++ after) =
        (Text.searchFor plainHere? t).or (Text.searchFor plainHere? after) :=
  ⟨Text.searchFor_append_or fun q _ _ => extendedHere?_append (fun c hc => Or.inl (h c hc)) q,
    Text.searchFor_append_or fun q _ _ => plainHere?_append h.endsPlain q⟩

/-! ### What is captured -/

theorem mem_of_nonempty? {t : Text} (h : nonempty? t = some raw) : raw = t := by
  cases t with
  | nil => exact absurd h (by simp [nonempty?])
  | cons c cs => exact (Option.some.inj h).symm

theorem dropQuote_suffix (t : Text) : dropQuote t <:+ t := by
  unfold dropQuote
  split
  · exact List.suffix_cons _ _
  · exact List.suffix_rfl

theorem of_plainValue? {t : Text} (h : plainValue? t = some raw) : ∀ c ∈ raw, c ∈ t ∧ c ≠ ';' := by
  rw [plainValue?, Option.or_eq_some_iff] at h
  rcases h with h | ⟨-, h⟩
  · obtain rfl := mem_of_nonempty? h
    intro c hc
    have hin : inPlain c = true := List.mem_takeWhile_imp hc
    have hsuffix := (dropQuote_suffix (t.dropWhile Text.isBlank)).trans (List.dropWhile_suffix _)
    refine ⟨hsuffix.mem ((List.takeWhile_prefix _).mem hc), ?_⟩
    rintro rfl
    exact absurd hin (by decide)
  · obtain ⟨b, hb, rfl⟩ := Option.map_eq_some_iff.mp h
    have hmem := List.mem_of_getLast? hb
    have hblank : Text.isBlank b = true := List.mem_takeWhile_imp hmem
    intro c hc
    obtain rfl := List.mem_singleton.mp hc
    refine ⟨(List.takeWhile_prefix _).mem hmem, ?_⟩
    rintro rfl
    exact absurd hblank (by decide)

/-- What follows a marker stands in the text. -/
theorem suffix_of_dropCaseless? {marker t rest : Text}
    (h : Text.dropCaseless? marker t = some rest) : rest <:+ t := by
  obtain ⟨spelling, -, rfl⟩ := Text.dropCaseless?_eq_some.mp h
  exact List.suffix_append _ _

theorem of_extendedHere? {t : Text} (h : extendedHere? t = some raw) : ∀ c ∈ raw, c ∈ t ∧ c ≠ ';' := by
  obtain ⟨rest, hrest, hname⟩ := Option.bind_eq_some_iff.mp h
  obtain rfl := mem_of_nonempty? hname
  intro c hc
  have hin : inExtended c = true := List.mem_takeWhile_imp hc
  refine ⟨(suffix_of_dropCaseless? hrest).mem ((List.takeWhile_prefix _).mem hc), ?_⟩
  rintro rfl
  exact absurd hin (by decide)

theorem of_plainHere? {t : Text} (h : plainHere? t = some raw) : ∀ c ∈ raw, c ∈ t ∧ c ≠ ';' := by
  obtain ⟨rest, hrest, hname⟩ := Option.bind_eq_some_iff.mp h
  split at hname
  · rename_i named hdrop
    have hsuffix : named <:+ rest := by
      have hdropped := List.dropWhile_suffix (l := rest) Text.isBlank
      rw [hdrop] at hdropped
      exact (List.suffix_cons _ _).trans hdropped
    intro c hc
    obtain ⟨hmem, hne⟩ := of_plainValue? hname c hc
    exact ⟨(suffix_of_dropCaseless? hrest).mem (hsuffix.mem hmem), hne⟩
  · exact absurd hname (by simp)

/-- What is captured stands in the value, and holds no semicolon. -/
theorem of_captured (h : captured value = some raw) : ∀ c ∈ raw, c ∈ value ∧ c ≠ ';' := by
  rw [captured, Option.or_eq_some_iff] at h
  intro c hc
  rcases h with h | ⟨-, h⟩
  · obtain ⟨q, hq, hfound⟩ := Text.exists_of_searchFor h
    exact ⟨hq.mem (of_extendedHere? hfound c hc).1, (of_extendedHere? hfound c hc).2⟩
  · obtain ⟨q, hq, hfound⟩ := Text.exists_of_searchFor h
    exact ⟨hq.mem (of_plainHere? hfound c hc).1, (of_plainHere? hfound c hc).2⟩

/-- Without percent signs, what is captured is the name, but for white space around it. -/
theorem fileName?_of_notMem (h : '%' ∉ value) :
    fileName? value = .ok ((captured value).bind fun raw => nonempty? (Text.trim raw)) := by
  unfold fileName?
  cases hcaptured : captured value with
  | none => rfl
  | some raw =>
    rw [Option.map_some, Option.bind_some]
    cases htrim : Text.trim raw with
    | nil => rfl
    | cons c cs =>
      have hfree : '%' ∉ c :: cs := fun hc => h (of_captured hcaptured _
        (Text.mem_of_mem_trim (htrim ▸ hc))).1
      have hdecode : decodeName (c :: cs) = .ok (c :: cs) := decodeName_eq_ok.mpr
        ⟨Percent.isSound_of_notMem hfree, Percent.decode_of_notMem hfree⟩
      show (decodeName (c :: cs)).map some = _
      rw [hdecode]
      rfl

end Courier.Disposition
