import Courier.Proofs.Http.Forms

/-!
# File names in double quotes

Double quotes keep neither a semicolon from ending a form nor a word from opening one. So
what a value with quoted parameters names is found parameter by parameter: the first extended
form in some quoted text comes first, then the first plain form, which a parameter is as
soon as its name ends in the word, or which a quoted text holds; and of a quoted file name
with a semicolon in it only the part before that is read.

Key definitions: `Disposition.QuotedParameter`, `QuotedParameter.extended?`,
`QuotedParameter.plain?`, `Disposition.NamesFile`.
Key theorems: `Disposition.captured_writeQuoted`, `Disposition.fileName?_writeQuoted`,
`Disposition.quoted_name_read`.
-/

namespace Courier.Disposition

/-- May the character stand in the name of a parameter? -/
def isToken (c : Char) : Bool := c.isAlphanum || c == '-'

/-- May the character stand in a quoted text? -/
def isQuotable (c : Char) : Bool := !(c == '"' || c == '%' || c == '\r' || c == '\n')

/-- A parameter with a value that stands in double quotes. -/
structure QuotedParameter where
  name : Text
  value : Text
  name_token : name.all isToken = true
  value_quotable : value.all isQuotable = true

namespace QuotedParameter

/-- A parameter as it is written after another one. -/
def write (p : QuotedParameter) : Text :=
  ';' :: ' ' :: (p.name ++ '=' :: '"' :: (p.value ++ ['"']))

/-- The first extended form that the quoted text holds. The closing quote is part of it, unless
a semicolon ends it before. -/
def extended? (p : QuotedParameter) : Option Text :=
  Text.searchFor extendedHere? (p.value ++ ['"'])

/-- The plain form that the parameter is, where its name ends in the word: the quoted text up to
its first semicolon. Else the first plain form that the quoted text holds. -/
def plain? (p : QuotedParameter) : Option Text :=
  (if Text.Ends p.name plainMarker then nonempty? (p.value.takeWhile (· != ';')) else none).or
    (Text.searchFor plainHere? p.value)

variable (p : QuotedParameter)

theorem token_of_name {c : Char} (hc : c ∈ p.name) : c.isAlphanum = true ∨ c = '-' := by
  simpa [isToken] using List.all_eq_true.mp p.name_token c hc

theorem ne_of_value {c : Char} (hc : c ∈ p.value) : c ≠ '"' ∧ c ≠ '%' := by
  have hquotable := List.all_eq_true.mp p.value_quotable c hc
  constructor <;> rintro rfl <;> exact absurd hquotable (by decide)

theorem isBlank_name {c : Char} (hc : c ∈ p.name) : Text.isBlank c = false := by
  rcases p.token_of_name hc with h | rfl
  · exact (Percent.isGraphic_of_isAlphanum h).1.isBlank
  · rfl

theorem ne_equals_of_name {c : Char} (hc : c ∈ p.name) : c ≠ '=' := by
  rcases p.token_of_name hc with h | rfl
  · rintro rfl
    exact absurd h (by decide)
  · decide

/-- No character of a name is the star of the marker. -/
theorem star_of_name {c : Char} (hc : c ∈ p.name) : Text.foldsTo '*' c = false := by
  have hlower := Text.toNat_toLower c
  have hne : c.toLower ≠ '*' := by
    intro heq
    rw [heq] at hlower
    change 42 = _ at hlower
    rcases p.token_of_name hc with h | rfl
    · have hrange := Text.isAlphanum_iff.mp h
      split at hlower <;> omega
    · exact absurd hlower (by decide)
  simp [Text.foldsTo, hne]

/-- What is found of extended forms in a parameter is found in the quoted text: no marker goes
beyond a double quote, and none stands before the first. -/
theorem searchFor_extended_write : Text.searchFor extendedHere? p.write = p.extended? := by
  have hbefore : p.write = (';' :: ' ' :: (p.name ++ ['='])) ++ ['"'] ++ (p.value ++ ['"']) := by
    simp [write]
  have hstop : ∀ t : Text, ∀ c, ('"' :: t).head? = some c →
      ∀ m ∈ extendedMarker, Text.foldsTo m c = false := by
    intro t c hc
    obtain rfl := Option.some.inj hc
    exact notFolded_of_all (by decide)
  rw [hbefore, extended?, Text.searchFor_append fun q hq hne => ?_]
  -- such a place is one before the first double quote, with no star between
  rcases List.suffix_concat_iff.mp hq with rfl | ⟨lead, rfl, hlead⟩
  · exact absurd rfl hne
  · have hfree : ∀ c ∈ lead, Text.foldsTo '*' c = false := by
      intro c hc
      have hmem := hlead.mem hc
      simp only [List.mem_cons, List.mem_append, List.not_mem_nil, or_false] at hmem
      rcases hmem with rfl | rfl | hname | rfl
      · decide
      · decide
      · exact p.star_of_name hname
      · decide
    rw [List.append_assoc, List.singleton_append, extendedHere?,
      Text.dropCaseless?_append (hstop _), Text.dropCaseless?_eq_none (by decide) hfree]
    rfl

/-- Only a semicolon ends a name in a quoted text. -/
theorem takeWhile_value : p.value.takeWhile inPlain = p.value.takeWhile (· != ';') := by
  have hsame : ∀ t : Text, (∀ c ∈ t, c ≠ '"') → t.takeWhile inPlain = t.takeWhile (· != ';') := by
    intro t ht
    induction t with
    | nil => rfl
    | cons c t ih =>
      have hc : inPlain c = (c != ';') := by simp [inPlain, ht c List.mem_cons_self, bne]
      rw [List.takeWhile_cons, List.takeWhile_cons, hc, ih fun d hd => ht d (List.mem_cons_of_mem _ hd)]
  exact hsame _ fun c hc => (p.ne_of_value hc).1

/-- Within the name of a parameter, a plain form starts where the rest of the name is its word. -/
theorem plainHere?_name {q : Text} (hq : q <:+ p.name) :
    plainHere? (q ++ ('=' :: '"' :: (p.value ++ ['"']))) =
      if Text.Spells q plainMarker then nonempty? (p.value.takeWhile (· != ';')) else none := by
  have hstop : ∀ c, ('=' :: '"' :: (p.value ++ ['"'])).head? = some c →
      ∀ m ∈ plainMarker, Text.foldsTo m c = false := by
    intro c hc
    obtain rfl := Option.some.inj hc
    exact notFolded_of_all (by decide)
  have hvalue : plainValue? ('"' :: (p.value ++ ['"'])) =
      nonempty? (p.value.takeWhile (· != ';')) := by
    have hname : (p.value ++ ['"']).takeWhile inPlain = p.value.takeWhile (· != ';') := by
      rw [takeWhile_append_of_end rfl, takeWhile_value]
    show (nonempty? ((p.value ++ ['"']).takeWhile inPlain)).or none = _
    rw [hname, Option.or_none]
  rw [plainHere?_eq, Text.dropCaseless?_append hstop]
  by_cases hs : Text.Spells q plainMarker
  · rw [if_pos hs, Text.dropCaseless?_eq_nil.mpr hs]
    exact hvalue
  · rw [if_neg hs]
    cases hdrop : Text.dropCaseless? plainMarker q with
    | none => rfl
    | some rest =>
      cases rest with
      | nil => exact absurd (Text.dropCaseless?_eq_nil.mp hdrop) hs
      | cons c cs =>
        have hc : c ∈ p.name := ((suffix_of_dropCaseless? hdrop).trans hq).mem List.mem_cons_self
        exact plainAfter?_cons (p.isBlank_name hc) (p.ne_equals_of_name hc) _

/-- Of plain forms in a parameter, the parameter itself comes first, and what is found in the
quoted text comes after. -/
theorem searchFor_plain_write : Text.searchFor plainHere? p.write = p.plain? := by
  have hname := Text.searchFor_append_or (t := '=' :: '"' :: (p.value ++ ['"']))
    fun q hq _ => p.plainHere?_name hq
  have hvalue : Text.searchFor plainHere? (p.value ++ ['"']) = Text.searchFor plainHere? p.value := by
    rw [Text.searchFor_append_or fun q _ _ => plainHere?_append .quote q]
    exact Option.or_none
  calc
    Text.searchFor plainHere? p.write
      = Text.searchFor plainHere? (p.name ++ ('=' :: '"' :: (p.value ++ ['"']))) := rfl
    _ = (Text.searchFor (fun q => if Text.Spells q plainMarker then
          nonempty? (p.value.takeWhile (· != ';')) else none) p.name).or
          (Text.searchFor plainHere? ('=' :: '"' :: (p.value ++ ['"']))) := hname
    _ = p.plain? := by
      rw [Text.searchFor_spelling (by decide)]
      exact congrArg _ hvalue

end QuotedParameter

/-- A value with parameters in double quotes. -/
def writeQuoted (ps : List QuotedParameter) : Text :=
  "attachment".toList ++ ps.flatMap QuotedParameter.write

theorem opens_flatMap_write (ps : List QuotedParameter) : Opens (ps.flatMap QuotedParameter.write) := by
  cases ps with
  | nil => exact fun _ hc => absurd hc (by simp)
  | cons p ps => exact fun _ hc => (Option.some.inj hc).symm

theorem searchFor_flatMap_write (ps : List QuotedParameter) :
    Text.searchFor extendedHere? (ps.flatMap QuotedParameter.write) =
        ps.findSome? QuotedParameter.extended? ∧
      Text.searchFor plainHere? (ps.flatMap QuotedParameter.write) =
        ps.findSome? QuotedParameter.plain? := by
  induction ps with
  | nil => exact ⟨rfl, rfl⟩
  | cons p ps ih =>
    obtain ⟨hextended, hplain⟩ := searchFor_append_of_opens (opens_flatMap_write ps) p.write
    rw [List.flatMap_cons, hextended, hplain, ih.1, ih.2, p.searchFor_extended_write,
      p.searchFor_plain_write, List.findSome?_cons, List.findSome?_cons]
    constructor
    · cases p.extended? <;> rfl
    · cases p.plain? <;> rfl

/-- **What is captured of quoted parameters:** the first extended form in a quoted text, else the
first plain form that is a parameter or stands in a quoted text. -/
theorem captured_writeQuoted (ps : List QuotedParameter) :
    captured (writeQuoted ps) =
      (ps.findSome? QuotedParameter.extended?).or (ps.findSome? QuotedParameter.plain?) := by
  have hkind : Text.searchFor extendedHere? "attachment".toList = none ∧
      Text.searchFor plainHere? "attachment".toList = none := ⟨rfl, rfl⟩
  unfold writeQuoted
  generalize "attachment".toList = kind at hkind ⊢
  obtain ⟨hextended, hplain⟩ := searchFor_append_of_opens (opens_flatMap_write ps) kind
  obtain ⟨hextended', hplain'⟩ := searchFor_flatMap_write ps
  rw [captured, hextended, hplain, hkind.1, hkind.2, hextended', hplain', Option.none_or,
    Option.none_or]

theorem notMem_writeQuoted (ps : List QuotedParameter) : '%' ∉ writeQuoted ps := by
  have hwrite : ∀ p : QuotedParameter, '%' ∉ p.write := by
    intro p h
    have hsigns : '%' ∈ p.name ∨ '%' ∈ p.value := by simpa [QuotedParameter.write] using h
    rcases hsigns with h | h
    · rcases p.token_of_name h with h | h <;> exact absurd h (by decide)
    · exact (p.ne_of_value h).2 rfl
  have hkind : '%' ∉ "attachment".toList := by decide
  intro h
  rcases List.mem_append.mp h with h | h
  · exact hkind h
  · obtain ⟨p, -, hp⟩ := List.mem_flatMap.mp h
    exact hwrite p hp

/-- What the quoted parameters name, one after another. -/
theorem fileName?_writeQuoted (ps : List QuotedParameter) :
    fileName? (writeQuoted ps) =
      .ok (((ps.findSome? QuotedParameter.extended?).or
        (ps.findSome? QuotedParameter.plain?)).bind fun raw => nonempty? (Text.trim raw)) := by
  rw [fileName?_of_notMem (notMem_writeQuoted ps), captured_writeQuoted]

/-- One of the parameters names the file: their names are distinct, it alone is called by the word
for that, in whatever letter case, and its quoted text is neither empty nor has white space
at its ends. -/
structure NamesFile (before : List QuotedParameter) (p : QuotedParameter)
    (others : List QuotedParameter) : Prop where
  distinct : ((before ++ p :: others).map QuotedParameter.name).Nodup
  named : Text.Spells p.name plainMarker
  only : ∀ q ∈ before ++ others, ¬Text.Spells q.name plainMarker
  nonempty : p.value ≠ []
  trimmed : Text.IsTrimmed p.value

/-- **What a value with quoted parameters names.** It is the first extended form in a quoted
text, else the first plain form, each parameter being one if its name ends in the word. So the
quoted file name is read whole if no quoted text holds an extended form, no parameter before
it is or holds a plain one, and no semicolon stands in it; with a semicolon in it, it never
is read. -/
theorem quoted_name_read {before others : List QuotedParameter} {p : QuotedParameter}
    (h : NamesFile before p others) :
    fileName? (writeQuoted (before ++ p :: others)) =
        .ok ((((before ++ p :: others).findSome? QuotedParameter.extended?).or
          ((before ++ p :: others).findSome? QuotedParameter.plain?)).bind
            fun raw => nonempty? (Text.trim raw)) ∧
      ((∀ q ∈ before ++ p :: others, q.extended? = none) → (∀ q ∈ before, q.plain? = none) →
        ';' ∉ p.value → fileName? (writeQuoted (before ++ p :: others)) = .ok (some p.value)) ∧
      (';' ∈ p.value → fileName? (writeQuoted (before ++ p :: others)) ≠ .ok (some p.value)) := by
  have hread := fileName?_writeQuoted (before ++ p :: others)
  refine ⟨hread, fun hextended hplain hwhole => ?_, fun hcut hname => ?_⟩
  · have hends : Text.Ends p.name plainMarker := ⟨p.name, h.named, List.suffix_rfl⟩
    have hvalue : p.value.takeWhile (· != ';') = p.value := List.takeWhile_eq_self_iff.mpr
      fun c hc => bne_iff_ne.mpr fun heq => hwhole (heq ▸ hc)
    have hfound : nonempty? p.value = some p.value := by
      obtain ⟨c, cs, hcons⟩ := List.exists_cons_of_ne_nil h.nonempty
      rw [hcons]
      rfl
    have hown : p.plain? = some p.value := by
      rw [QuotedParameter.plain?, if_pos hends, hvalue, hfound, Option.some_or]
    rw [hread, List.findSome?_eq_none_iff.mpr hextended, List.findSome?_append,
      List.findSome?_eq_none_iff.mpr hplain, List.findSome?_cons, hown,
      Option.none_or, Option.none_or, Option.bind_some, Text.trim_eq_self h.trimmed, hfound]
  · obtain ⟨raw, hraw, -, -, hdecode⟩ := fileName?_eq_some.mp hname
    have hfree : '%' ∉ Text.trim raw := fun hc => notMem_writeQuoted _
      (of_captured hraw _ (Text.mem_of_mem_trim hc)).1
    have hsame : Text.trim raw = p.value :=
      Except.ok.inj ((Percent.decode_of_notMem hfree).symm.trans hdecode)
    exact (of_captured hraw _ (Text.mem_of_mem_trim (hsame ▸ hcut))).2 rfl

/-- A size of which the quoted text looks like parameters. -/
def size : QuotedParameter := ⟨"size".toList, "3; filename*=x; filename".toList, by decide, by decide⟩

/-- A file name with an equals sign in it. -/
def total : QuotedParameter := ⟨"FileName".toList, "a = b.zip".toList, by decide, by decide⟩

/-- A parameter of which the name ends in the word. -/
def oldName : QuotedParameter :=
  ⟨"old-filename".toList, "filename=c.zip".toList, by decide, by decide⟩

theorem isTrimmed_of_ends {t : Text} (hhead : t.head?.all (!Text.isBlank ·) = true)
    (hlast : t.getLast?.all (!Text.isBlank ·) = true) : Text.IsTrimmed t := by
  constructor
  · intro c hc
    rw [hc] at hhead
    simpa using hhead
  · intro c hc
    rw [hc] at hlast
    simpa using hlast

theorem total_namesFile : NamesFile [size] total [oldName] where
  distinct := by decide
  named := by decide
  only := by decide
  nonempty := by decide
  trimmed := isTrimmed_of_ends rfl rfl

/-- Between parameters that look like others, a file name is read. -/
theorem quoted_name_between_others :
    fileName? (writeQuoted [size, total, oldName]) = .ok (some "a = b.zip".toList) :=
  (quoted_name_read total_namesFile).2.1 (by decide) (by decide) (by decide)

/-- A file name with a semicolon in it. -/
def halves : QuotedParameter := ⟨"filename".toList, "a;b.zip".toList, by decide, by decide⟩

/-- A file name that looks like nothing else. -/
def sound : QuotedParameter := ⟨"filename".toList, "v.zip".toList, by decide, by decide⟩

/-- A name that looks like a plain form. -/
def plainBait : QuotedParameter := ⟨"name".toList, "filename=x".toList, by decide, by decide⟩

/-- A name that looks like an extended form. -/
def extendedBait : QuotedParameter :=
  ⟨"name".toList, "filename*=UTF-8''x".toList, by decide, by decide⟩

theorem halves_namesFile : NamesFile [] halves [] where
  distinct := by decide
  named := by decide
  only := by decide
  nonempty := by decide
  trimmed := isTrimmed_of_ends rfl rfl

/-- A quoted file name is not always read as it stands: it is cut at a semicolon, and what other
quoted texts hold is read in its place. -/
theorem quoted_names_misread :
    (¬∀ before p others, NamesFile before p others →
      fileName? (writeQuoted (before ++ p :: others)) = .ok (some p.value)) ∧
    writeQuoted [halves] = "attachment; filename=\"a;b.zip\"".toList ∧
    fileName? (writeQuoted [halves]) = .ok (some "a".toList) ∧
    fileName? (writeQuoted [plainBait, sound]) = .ok (some "x".toList) ∧
    fileName? (writeQuoted [sound, extendedBait]) = .ok (some "x\"".toList) := by
  have hhalves : fileName? (writeQuoted [halves]) = .ok (some "a".toList) := by
    rw [fileName?_writeQuoted]
    exact congrArg Except.ok (by decide)
  refine ⟨fun h => ?_, by decide, hhalves, ?_, ?_⟩
  · have hwhole := hhalves.symm.trans (h [] halves [] halves_namesFile)
    exact absurd (Except.ok.inj hwhole) (by decide)
  · rw [fileName?_writeQuoted]
    exact congrArg Except.ok (by decide)
  · rw [fileName?_writeQuoted]
    exact congrArg Except.ok (by decide)

end Courier.Disposition
