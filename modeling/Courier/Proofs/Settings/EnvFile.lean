import Courier.Settings.EnvFile
import Courier.Proofs.Bytes.Utf8
import Courier.Proofs.Text.Caseless
import Courier.Proofs.Text.Lines
import Courier.Proofs.Text.Trim
import Courier.Proofs.Tree.Operations

/-!
# A file of variables means what it says

A line can set a variable in many spellings: with white space around its parts,
with the word `export` in front, and with quotes around the value. Comments, blank
lines and lines without an equals sign say nothing. Whatever the spelling, reading
the file gives the assignments in it, one after another, and setting them gives
each variable its first value or, where they override, its last one.

Key definitions: `EnvFile.IsName`, `EnvFile.IsValue`, `EnvFile.Written`, `EnvFile.LineSays`,
`EnvFile.FileSays`.
Key theorems: `EnvFile.assignment?_of_lineSays`, `EnvFile.assignments_of_fileSays`,
`EnvFile.assign_keeping`, `EnvFile.assign_overriding`, `EnvFile.load_means_what_it_says`.
-/

namespace Courier

namespace Text

theorem dropLead?_eq_some {rest : Text} : ∀ {lead t : Text},
    dropLead? lead t = some rest ↔ t = lead ++ rest
  | [], t => by simp [dropLead?]
  | p :: ps, [] => by simp [dropLead?]
  | p :: ps, c :: cs => by
    unfold dropLead?
    by_cases h : p = c
    · rw [if_pos h, dropLead?_eq_some, h]
      simp
    · rw [if_neg h]
      simp [Ne.symm h]

theorem cut_eq_none {sep : Char} : ∀ {t : Text}, sep ∉ t → cut sep t = none
  | [], _ => rfl
  | c :: t, h => by
    rw [List.mem_cons, not_or] at h
    rw [cut, if_neg (Ne.symm h.1), cut_eq_none h.2]
    rfl

/-- A text is cut at the first separator. -/
theorem cut_append {sep : Char} (after : Text) : ∀ {before : Text}, sep ∉ before →
    cut sep (before ++ sep :: after) = some (before, after)
  | [], _ => by rw [List.nil_append, cut, if_pos rfl]
  | c :: before, h => by
    rw [List.mem_cons, not_or] at h
    rw [List.cons_append, cut, if_neg (Ne.symm h.1), cut_append after h.2]
    rfl

end Text

namespace EnvFile

/-! ### What a line and a file may say -/

/-- May the character stand in the name of a variable? -/
def inName (c : Char) : Bool := c.isAlphanum || c == '_'

/-- A name of ASCII letters, digits and underscores that is not the word `export`. -/
structure IsName (key : Text) : Prop where
  ne_nil : key ≠ []
  letters : ∀ c ∈ key, inName c = true
  ne_export : key ≠ "export".toList

/-- A value without the null character and without a line break. -/
structure IsValue (value : Text) : Prop where
  noNull : '\x00' ∉ value
  unbroken : Text.Unbroken value

/-- White space that ends no line. -/
structure IsGap (w : Text) : Prop where
  blank : Text.Blank w
  unbroken : Text.Unbroken w

/-- The ways to write a value: in quotes of either kind, or bare, where it has no white space
at its ends and is not itself in a pair of equal quotes. -/
inductive Written (value : Text) : Text → Prop
  | quoted {q : Char} (hq : q = '\'' ∨ q = '"') : Written value (q :: (value ++ [q]))
  | bare (htrimmed : Text.IsTrimmed value)
    (hunquoted : ∀ q inner, q = '\'' ∨ q = '"' → value ≠ q :: (inner ++ [q])) : Written value value

/-- What may stand before a name: nothing, or the word `export`, a space and more white space. -/
inductive Lead : Text → Prop
  | none : Lead []
  | exported {w : Text} (hw : IsGap w) : Lead ("export ".toList ++ w)

/-- The lines that set a variable to a value, and those that set none. -/
inductive LineSays : Option (Text × Text) → Text → Prop
  | comment {w rest : Text} (hw : IsGap w) (hrest : Text.Unbroken rest) :
    LineSays none (w ++ '#' :: rest)
  | noEquals {line : Text} (hline : Text.Unbroken line) (hequals : '=' ∉ line) : LineSays none line
  | sets {key value lead written w₀ w₁ w₂ w₃ : Text} (hlead : Lead lead) (hkey : IsName key)
    (hvalue : IsValue value) (hwritten : Written value written) (h₀ : IsGap w₀) (h₁ : IsGap w₁)
    (h₂ : IsGap w₂) (h₃ : IsGap w₃) :
    LineSays (some (key, value))
      (w₀ ++ lead ++ key ++ w₁ ++ ['='] ++ w₂ ++ written ++ w₃)

/-- The texts of a file that says, line by line, the assignments. The last line may lack its end. -/
inductive FileSays : List (Text × Text) → Text → Prop
  | nil : FileSays [] []
  | last {said : Option (Text × Text)} {line : Text} (hline : LineSays said line) :
    FileSays said.toList line
  | cons {said : Option (Text × Text)} {line ending rest : Text} {pairs : List (Text × Text)}
    (hline : LineSays said line) (hending : Text.IsLineEnd ending) (hrest : FileSays pairs rest) :
    FileSays (said.toList ++ pairs) (line ++ ending ++ rest)

instance (key : Text) : Decidable (IsName key) :=
  decidable_of_iff (key ≠ [] ∧ key.all inName = true ∧ key ≠ "export".toList)
    ⟨fun h => ⟨h.1, List.all_eq_true.mp h.2.1, h.2.2⟩,
      fun h => ⟨h.1, List.all_eq_true.mpr h.2, h.3⟩⟩

instance (value : Text) : Decidable (IsValue value) :=
  decidable_of_iff ('\x00' ∉ value ∧ Text.Unbroken value)
    ⟨fun h => ⟨h.1, h.2⟩, fun h => ⟨h.1, h.2⟩⟩

instance (w : Text) : Decidable (IsGap w) :=
  decidable_of_iff (Text.Blank w ∧ Text.Unbroken w)
    ⟨fun h => ⟨h.1, h.2⟩, fun h => ⟨h.1, h.2⟩⟩

variable {key value written line text w w' : Text} {said : Option (Text × Text)}
  {pairs : List (Text × Text)}

/-! ### The parts of a line -/

theorem inName_facts {c : Char} (h : inName c = true) :
    Text.isBlank c = false ∧ Text.isBreak c = false ∧ c ≠ '=' ∧ c ≠ '\x00' ∧ c ≠ '#' := by
  have hrange : 48 ≤ c.toNat ∧ c.toNat ≤ 122 ∧ c.toNat ≠ 61 := by
    rcases Bool.or_eq_true _ _ ▸ h with h | h
    · have := Text.isAlphanum_iff.mp h
      omega
    · rw [beq_iff_eq.mp h]
      decide
  refine ⟨?_, ?_, ?_, ?_, ?_⟩
  · simp only [Text.isBlank, Bool.or_eq_false_iff, Bool.and_eq_false_iff, decide_eq_false_iff_not,
      beq_eq_false_iff_ne]
    omega
  · simp only [Text.isBreak, Bool.or_eq_false_iff, Bool.and_eq_false_iff, decide_eq_false_iff_not,
      beq_eq_false_iff_ne]
    omega
  all_goals
    rintro rfl
    exact absurd hrange (by decide)

theorem IsName.notMem_equals (h : IsName key) : '=' ∉ key := fun hmem =>
  (inName_facts (h.letters _ hmem)).2.2.1 rfl

theorem IsGap.notMem {c : Char} (h : IsGap w) (hc : Text.isBlank c = false) : c ∉ w := fun hmem => by
  rw [h.blank c hmem] at hc
  exact absurd hc (by simp)

theorem quote_facts {q : Char} (hq : q = '\'' ∨ q = '"') :
    Text.isBlank q = false ∧ Text.isBreak q = false := by
  rcases hq with rfl | rfl <;> decide

theorem Lead.unbroken {lead : Text} (h : Lead lead) : Text.Unbroken lead := by
  cases h with
  | none => exact fun c hc => absurd hc List.not_mem_nil
  | exported hw => exact Text.Unbroken.append (by decide) hw.unbroken

theorem Written.unbroken (h : Written value written) (hvalue : IsValue value) :
    Text.Unbroken written := by
  cases h with
  | bare => exact hvalue.unbroken
  | @quoted q hq =>
    have hquote := (quote_facts hq).2
    refine List.forall_mem_cons.mpr ⟨hquote, ?_⟩
    exact Text.Unbroken.append hvalue.unbroken fun c hc => List.mem_singleton.mp hc ▸ hquote

theorem LineSays.unbroken (h : LineSays said line) : Text.Unbroken line := by
  cases h with
  | comment hw hrest =>
    exact Text.Unbroken.append hw.unbroken (List.forall_mem_cons.mpr ⟨by decide, hrest⟩)
  | noEquals hline hequals => exact hline
  | sets hlead hkey hvalue hwritten h₀ h₁ h₂ h₃ =>
    have hname : Text.Unbroken _ := fun c hc => (inName_facts (hkey.letters c hc)).2.1
    have hequals : Text.Unbroken ['='] := by decide
    exact (((((((h₀.unbroken.append hlead.unbroken).append hname).append h₁.unbroken).append
      hequals).append h₂.unbroken).append (hwritten.unbroken hvalue)).append h₃.unbroken)

theorem Written.isTrimmed (h : Written value written) : Text.IsTrimmed written := by
  cases h with
  | bare htrimmed hunquoted => exact htrimmed
  | @quoted q hq =>
    have hquote := (quote_facts hq).1
    refine ⟨fun c hc => Option.some.inj hc ▸ hquote, fun c hc => ?_⟩
    rw [← List.cons_append, List.getLast?_concat] at hc
    exact Option.some.inj hc ▸ hquote

/-- One pair of quotes is taken off, and only where there is one. -/
theorem Written.stripQuotes (h : Written value written) : stripQuotes written = value := by
  cases h with
  | @quoted q hq =>
    have hquote : (q = '\'' || q = '"') = true := by
      rcases hq with rfl | rfl <;> decide
    cases value with
    | nil => simp [EnvFile.stripQuotes, hquote]
    | cons c cs =>
      rw [List.cons_append, EnvFile.stripQuotes, ← List.cons_append, hquote, Bool.true_and,
        List.getLast?_concat, if_pos (by simp), List.dropLast_concat]
  | bare htrimmed hunquoted =>
    unfold EnvFile.stripQuotes
    split
    · rename_i q c cs
      split
      · rename_i hquotes
        simp only [Bool.and_eq_true, Bool.or_eq_true, decide_eq_true_eq] at hquotes
        obtain ⟨init, hinit⟩ := List.getLast?_eq_some_iff.mp hquotes.2
        exact absurd (congrArg (q :: ·) hinit) (hunquoted q init hquotes.1)
      · rfl
    · rfl

/-! ### A line -/

theorem IsName.isTrimmed (h : IsName key) : Text.IsTrimmed key :=
  ⟨fun c hc => (inName_facts (h.letters c (List.mem_of_head? hc))).1,
    fun c hc => (inName_facts (h.letters c (List.mem_of_getLast? hc))).1⟩

/-- What follows a name starts with no letter of one, so the name is read to its end. -/
theorem IsName.takeWhile (h : IsName key) {rest : Text}
    (hrest : ∀ c, rest.head? = some c → inName c = false) :
    (key ++ rest).takeWhile inName = key :=
  Text.takeWhile_run h.letters hrest

theorem gap_equals_head (hw : IsGap w) (rest : Text) :
    ∀ c, (w ++ '=' :: rest).head? = some c → inName c = false := by
  intro c hc
  by_contra h
  rw [Bool.not_eq_false] at h
  obtain ⟨hblank, -, hequals, -⟩ := inName_facts h
  cases w with
  | nil => exact hequals (Option.some.inj hc).symm
  | cons d ds =>
    rw [← Option.some.inj hc, hw.blank d List.mem_cons_self] at hblank
    exact absurd hblank (by simp)

/-- The word in front of a name is taken off, and the name itself is not it. -/
theorem dropExport_lead {lead : Text} (hlead : Lead lead) (hkey : IsName key) (hw : IsGap w)
    {body : Text} (hbody : ∀ c, ('=' :: body).getLast? = some c → Text.isBlank c = false) :
    dropExport (lead ++ key ++ w ++ '=' :: body) = key ++ w ++ '=' :: body := by
  have hassign : Text.IsTrimmed (key ++ w ++ '=' :: body) :=
    Text.IsTrimmed.between w hkey.ne_nil (List.cons_ne_nil _ _) hkey.isTrimmed.1 hbody
  cases hlead with
  | none =>
    have hnone : Text.dropLead? "export ".toList (key ++ w ++ '=' :: body) = none := by
      rw [Option.eq_none_iff_forall_ne_some]
      intro rest hrest
      have hname := hkey.takeWhile (gap_equals_head hw body)
      rw [← List.append_assoc, Text.dropLead?_eq_some.mp hrest] at hname
      exact hkey.ne_export (hname.symm.trans rfl)
    rw [List.nil_append, dropExport, hnone]
  | @exported w' hw' =>
    have hsome : Text.dropLead? "export ".toList
        ("export ".toList ++ w' ++ key ++ w ++ '=' :: body) =
          some (w' ++ (key ++ w ++ '=' :: body)) :=
      Text.dropLead?_eq_some.mpr (by simp only [List.append_assoc])
    rw [dropExport, hsome]
    have hpadded := Text.trim_padded hw'.blank Text.Blank.nil hassign
    rwa [List.append_nil] at hpadded

theorem assignment?_comment (hw : IsGap w) (rest : Text) : assignment? (w ++ '#' :: rest) = none := by
  have htrim : Text.trim (w ++ '#' :: rest) = Text.trimRight ('#' :: rest) := by
    rw [Text.trim, Text.trimLeft_blank_append hw.blank]
    rfl
  have hcomment : Text.trimRight ('#' :: rest) = [] ∨
      (Text.trimRight ('#' :: rest)).head? = some '#' := by
    obtain ⟨after, hafter⟩ := Text.trimRight_prefix ('#' :: rest)
    cases hkept : Text.trimRight ('#' :: rest) with
    | nil => exact .inl rfl
    | cons c cs =>
      rw [hkept] at hafter
      exact .inr (congrArg some (List.cons.inj hafter).1)
  rw [assignment?, htrim, if_pos (by simpa using hcomment)]

theorem assignment?_noEquals (hequals : '=' ∉ line) : assignment? line = none := by
  have htrim : '=' ∉ Text.trim line := fun hmem => hequals (Text.mem_of_mem_trim hmem)
  have hcut : '=' ∉ dropExport (Text.trim line) := by
    unfold dropExport
    split
    · rename_i rest hrest
      intro hmem
      refine htrim ?_
      rw [Text.dropLead?_eq_some.mp hrest]
      exact List.mem_append_right _ (Text.mem_of_mem_trim hmem)
    · exact htrim
  rw [assignment?, Text.cut_eq_none hcut]
  exact ite_self none

theorem Lead.head_facts {lead : Text} (hlead : Lead lead) (hkey : IsName key) (rest : Text) :
    ∀ c, (lead ++ key ++ rest).head? = some c → Text.isBlank c = false ∧ c ≠ '#' := by
  intro c hc
  cases hlead with
  | none =>
    rw [List.nil_append, List.head?_append_of_ne_nil _ hkey.ne_nil] at hc
    have hfacts := inName_facts (hkey.letters c (List.mem_of_head? hc))
    exact ⟨hfacts.1, hfacts.2.2.2.2⟩
  | exported => exact Option.some.inj hc ▸ by decide

/-- The parts of a line without the white space at its ends: the name before the first equals
sign, and the value as it is written after it. -/
theorem assignment?_of_trim {raw lead body : Text} (hlead : Lead lead) (hkey : IsName key)
    (hw : IsGap w) (hbody : ∀ c, ('=' :: body).getLast? = some c → Text.isBlank c = false)
    (hraw : Text.trim raw = lead ++ key ++ w ++ '=' :: body) :
    assignment? raw = some (key, EnvFile.stripQuotes (Text.trim body)) := by
  have hsaid : ¬ (Text.trim raw = [] ∨ (Text.trim raw).head? = some '#') := by
    rw [hraw]
    rintro (hnil | hhash)
    · exact absurd hnil (by simp)
    · rw [List.append_assoc] at hhash
      exact (hlead.head_facts hkey _ _ hhash).2 rfl
  have hnoEquals : '=' ∉ key ++ w := fun hmem =>
    (List.mem_append.mp hmem).elim hkey.notMem_equals (hw.notMem (by decide))
  have hname : Text.trim (key ++ w) = key := Text.trim_padded Text.Blank.nil hw.blank hkey.isTrimmed
  have hcut : Text.cut '=' (dropExport (Text.trim raw)) = some (key ++ w, body) := by
    rw [hraw, dropExport_lead hlead hkey hw hbody, Text.cut_append body hnoEquals]
  rw [assignment?, if_neg (by simpa only [Bool.or_eq_true, decide_eq_true_eq] using hsaid), hcut,
    Option.bind_some]
  dsimp only
  rw [hname, if_neg hkey.ne_nil]

/-- **A line is read as what it says.** -/
theorem assignment?_of_lineSays (h : LineSays said line) : assignment? line = said := by
  cases h with
  | comment hw hrest => exact assignment?_comment hw _
  | noEquals hline hequals => exact assignment?_noEquals hequals
  | @sets key value lead written w₀ w₁ w₂ w₃ hlead hkey hvalue hwritten h₀ h₁ h₂ h₃ =>
    obtain ⟨body, after, hright, hafter, hlast, hbody⟩ :=
      Text.exists_trimmed_end h₂.blank h₃.blank hwritten.isTrimmed
    have hequals : ∀ c, ('=' :: body).getLast? = some c → Text.isBlank c = false := by
      intro c hc
      cases body with
      | nil => exact Option.some.inj hc ▸ by decide
      | cons d ds =>
        rw [List.getLast?_cons_cons] at hc
        exact hlast c hc
    have hcore : Text.IsTrimmed (lead ++ key ++ w₁ ++ '=' :: body) :=
      Text.IsTrimmed.between w₁ (fun hnil => hkey.ne_nil (List.append_eq_nil_iff.mp hnil).2)
        (List.cons_ne_nil _ _)
        (fun c hc => (hlead.head_facts hkey [] c (by rwa [List.append_nil])).1) hequals
    have hline : w₀ ++ lead ++ key ++ w₁ ++ ['='] ++ w₂ ++ written ++ w₃ =
        w₀ ++ (lead ++ key ++ w₁ ++ '=' :: body) ++ after := by
      calc w₀ ++ lead ++ key ++ w₁ ++ ['='] ++ w₂ ++ written ++ w₃
          = w₀ ++ lead ++ key ++ w₁ ++ ['='] ++ (w₂ ++ written ++ w₃) := by
            simp only [List.append_assoc]
        _ = w₀ ++ lead ++ key ++ w₁ ++ ['='] ++ (body ++ after) := by rw [hright]
        _ = w₀ ++ (lead ++ key ++ w₁ ++ '=' :: body) ++ after := by
            simp only [List.append_assoc, List.cons_append, List.nil_append]
    have htrim : Text.trim (w₀ ++ lead ++ key ++ w₁ ++ ['='] ++ w₂ ++ written ++ w₃) =
        lead ++ key ++ w₁ ++ '=' :: body := by
      rw [hline, Text.trim_padded h₀.blank hafter hcore]
    rw [assignment?_of_trim hlead hkey h₁ hequals htrim, hbody, hwritten.stripQuotes]

/-! ### A file -/

theorem LineSays.empty : LineSays none [] :=
  .noEquals (fun _ hc => absurd hc List.not_mem_nil) List.not_mem_nil

theorem filterMap_lineSays (h : LineSays said line) (others : List Text) :
    (line :: others).filterMap assignment? = said.toList ++ others.filterMap assignment? := by
  rw [List.filterMap_cons, assignment?_of_lineSays h]
  cases said <;> rfl

/-- **A file is read as what its lines say.** A line feed that is taken along with the carriage
return before it was to end an empty line, which says nothing. -/
theorem assignments_of_fileSays (h : FileSays pairs text) :
    (Text.lines text).filterMap assignment? = pairs := by
  induction h with
  | nil => rfl
  | @last said line hline =>
    rw [Text.lines_unbroken hline.unbroken]
    by_cases hnil : line = []
    · rw [if_pos hnil]
      rw [hnil] at hline
      rw [← assignment?_of_lineSays hline]
      rfl
    · rw [if_neg hnil, filterMap_lineSays hline, List.filterMap_nil, List.append_nil]
  | @cons said line ending rest pairs hline hending hrest ih =>
    rcases Text.lines_cons hline.unbroken hending rest with hlines | ⟨rest', hrest', hlines⟩
    · rw [hlines, filterMap_lineSays hline, ih]
    · have hempty : Text.lines rest = [] :: Text.lines rest' := by
        rw [hrest']
        exact Text.linesFrom_feed [] rest'
      rw [hempty, filterMap_lineSays LineSays.empty, Option.toList_none, List.nil_append] at ih
      rw [hlines, filterMap_lineSays hline, ih]

/-! ### The variables that are set -/

/-- No null character stands in the pairs, so all of them can be set. -/
def Settable (pairs : List (Text × Text)) : Prop := ∀ pair ∈ pairs, '\x00' ∉ pair.1 ∧ '\x00' ∉ pair.2

variable {env : Environment}

theorem FileSays.settable (h : FileSays pairs text) : Settable pairs := by
  have hline : ∀ {said line}, LineSays said line → Settable said.toList := by
    intro said line hline
    cases hline with
    | comment => exact fun _ hpair => absurd hpair List.not_mem_nil
    | noEquals => exact fun _ hpair => absurd hpair List.not_mem_nil
    | sets hlead hkey hvalue =>
      intro pair hpair
      rw [Option.toList_some, List.mem_singleton] at hpair
      rw [hpair]
      exact ⟨fun hmem => (inName_facts (hkey.letters _ hmem)).2.2.2.1 rfl, hvalue.noNull⟩
  induction h with
  | nil => exact fun _ hpair => absurd hpair List.not_mem_nil
  | last hsaid => exact hline hsaid
  | cons hsaid hending hrest ih =>
    exact fun pair hpair => (List.mem_append.mp hpair).elim (hline hsaid pair) (ih pair)

/-- One variable is set, if the file is to set it, and the others after it. -/
theorem assign_cons {override : Bool} {rest : List (Text × Text)}
    (h : Settable ((key, value) :: rest)) :
    assign override ((key, value) :: rest) env =
      assign override rest (if takesEffect override env key then env.set key value else env) := by
  obtain ⟨hkey, hvalue⟩ := h (key, value) List.mem_cons_self
  rw [assign]
  by_cases heffect : takesEffect override env key = true
  · have hnoNull : ¬ (key.contains '\x00' || value.contains '\x00') = true := by
      simp [hkey, hvalue]
    rw [if_pos heffect, if_pos heffect, if_neg hnoNull]
  · rw [if_neg heffect, if_neg heffect]

/-- **A variable that stands keeps its value, and another gets the first one listed.** -/
theorem assign_keeping (env : Environment) (h : Settable pairs) : ∃ env', assign false pairs env = (.ok (), env') ∧
    ∀ k, env'.lookup k = (env.lookup k).or (pairs.lookup k) := by
  induction pairs generalizing env with
  | nil => exact ⟨env, rfl, fun k => by rw [List.lookup_nil, Option.or_none]⟩
  | cons pair rest ih =>
    obtain ⟨key, value⟩ := pair
    obtain ⟨env', hassign, hlookup⟩ := ih _ fun p hp => h p (List.mem_cons_of_mem _ hp)
    refine ⟨env', (assign_cons h).trans hassign, fun k => (hlookup k).trans ?_⟩
    rw [takesEffect, Bool.false_or, List.lookup_cons]
    cases hkey : env.lookup key with
    | some standing =>
      -- the key stands, so nothing that the file lists for it counts
      rw [if_neg (by simp)]
      by_cases hk : k = key
      · rw [hk, hkey, Option.some_or, Option.some_or]
      · rw [beq_eq_false_iff_ne.mpr hk]
    | none =>
      rw [if_pos (by simp), Table.lookup_set]
      by_cases hk : k = key
      · rw [if_pos hk, hk, hkey, beq_self_eq_true, Option.some_or, Option.none_or]
      · rw [if_neg hk, beq_eq_false_iff_ne.mpr hk]

/-- **A variable gets the last value listed, and one that is not listed keeps its own.** -/
theorem assign_overriding (env : Environment) (h : Settable pairs) : ∃ env', assign true pairs env = (.ok (), env') ∧
    ∀ k, env'.lookup k = (pairs.reverse.lookup k).or (env.lookup k) := by
  induction pairs generalizing env with
  | nil => exact ⟨env, rfl, fun k => by rw [List.reverse_nil, List.lookup_nil, Option.none_or]⟩
  | cons pair rest ih =>
    obtain ⟨key, value⟩ := pair
    obtain ⟨env', hassign, hlookup⟩ := ih _ fun p hp => h p (List.mem_cons_of_mem _ hp)
    refine ⟨env', (assign_cons h).trans hassign, fun k => (hlookup k).trans ?_⟩
    rw [takesEffect, Bool.true_or, if_pos rfl, Table.lookup_set, List.reverse_cons,
      List.lookup_append, Option.or_assoc, List.lookup_cons, List.lookup_nil]
    by_cases hk : k = key
    · rw [if_pos hk, hk, beq_self_eq_true, Option.some_or]
    · rw [if_neg hk, beq_eq_false_iff_ne.mpr hk, Option.none_or]

/-- Where all the listed variables stand, none is set. -/
theorem assign_standing (hstands : ∀ pair ∈ pairs, (env.lookup pair.1).isSome) :
    assign false pairs env = (.ok (), env) := by
  induction pairs with
  | nil => rfl
  | cons pair rest ih =>
    obtain ⟨key, value⟩ := pair
    have hkey : takesEffect false env key = false := by
      rw [takesEffect, Bool.false_or, Option.isNone_eq_false_iff]
      exact hstands (key, value) List.mem_cons_self
    rw [assign, hkey, if_neg Bool.false_ne_true]
    exact ih fun p hp => hstands p (List.mem_cons_of_mem _ hp)

/-- A file that can be read and decoded is loaded for its text. -/
theorem load_of_decode {t : Tree} {p : Path} {bytes : Bytes} (hfile : t.read p = .ok bytes)
    (hdecode : Utf8.decode bytes = .ok text) (override : Bool) :
    load t p override = applyText override text := by
  obtain ⟨hnull, r, n, hroute, hentry⟩ := Tree.read_eq_ok.mp hfile
  have hfound : t.lookAt p = .ok (some (.file n bytes)) :=
    Tree.lookAt_eq_some.mpr ⟨hnull, r, hroute, hentry⟩
  have hexists : t.exists? p = .ok true := by rw [Tree.exists?, hfound]; rfl
  have hisFile : t.isFile? p = .ok true := by rw [Tree.isFile?, hfound]; rfl
  funext env
  rw [load, readText, hexists, hisFile]
  dsimp only
  rw [hfile]
  dsimp only
  rw [hdecode]
  rfl

theorem isSome_lookup_of_mem {pair : Text × Text} (h : pair ∈ pairs) :
    (pairs.lookup pair.1).isSome = true := by
  rw [← Option.ne_none_iff_isSome, Ne, List.lookup_eq_none_iff]
  exact fun hnone => absurd (hnone pair h) (by simp)

/-- **A file of variables means what it says.** Whatever spelling its lines have, loading it adds
the listed variables that do not stand yet, each with its first value, and with `override` gives
every listed variable its last value; all others stay. To load it again changes nothing. -/
theorem load_means_what_it_says {t : Tree} {p : Path} (env : Environment)
    (hfile : t.read p = .ok (Utf8.encode text)) (htext : FileSays pairs text) :
    (∃ env', load t p false env = (.ok (), env') ∧
      (∀ k, env'.lookup k = (env.lookup k).or (pairs.lookup k)) ∧
      load t p false env' = (.ok (), env')) ∧
    ∃ env', load t p true env = (.ok (), env') ∧
      (∀ k, env'.lookup k = (pairs.reverse.lookup k).or (env.lookup k)) ∧
      ∃ env'', load t p true env' = (.ok (), env'') ∧ ∀ k, env''.lookup k = env'.lookup k := by
  have hload : ∀ override, load t p override = assign override pairs := fun override => by
    rw [load_of_decode hfile (Utf8.decode_encode text), applyText, assignments_of_fileSays htext]
  constructor
  · obtain ⟨env', hassign, hlookup⟩ := assign_keeping env htext.settable
    refine ⟨env', (congrFun (hload false) env).trans hassign, hlookup, ?_⟩
    rw [hload]
    refine assign_standing fun pair hpair => ?_
    rw [hlookup, Option.isSome_or, isSome_lookup_of_mem hpair, Bool.or_true]
  · obtain ⟨env', hassign, hlookup⟩ := assign_overriding env htext.settable
    obtain ⟨env'', hagain, hlookup'⟩ := assign_overriding env' htext.settable
    refine ⟨env', (congrFun (hload true) env).trans hassign, hlookup, env'',
      (congrFun (hload true) env').trans hagain, fun k => ?_⟩
    calc env''.lookup k = (pairs.reverse.lookup k).or (env'.lookup k) := hlookup' k
      _ = ((pairs.reverse.lookup k).or (pairs.reverse.lookup k)).or (env.lookup k) := by
        rw [hlookup, Option.or_assoc]
      _ = (pairs.reverse.lookup k).or (env.lookup k) := by rw [Option.or_self]
      _ = env'.lookup k := (hlookup k).symm

/-- A comment with an equals sign, an exported name with a quoted value, an empty line, the same
name again with a single quote for its value, and a last line without an end. -/
theorem says_repeated : FileSays
    [("KEY".toList, "a=b # \"c\" ".toList), ("KEY".toList, "'".toList), ("OTHER".toList, "x".toList)]
    " # note = 1\r\n export \u00a0KEY\t='a=b # \"c\" ' \r\nKEY='\nOTHER=\"x\"".toList := by
  have hnone : IsGap [] := by decide
  have hspace : IsGap [' '] := by decide
  have htab : IsGap ['\t'] := by decide
  have hfixed : IsGap ['\u00a0'] := by decide
  have hkey : IsName "KEY".toList := by decide
  have hother : IsName "OTHER".toList := by decide
  have hnote : IsValue " note = 1".toList := by decide
  have hlong : IsValue "a=b # \"c\" ".toList := by decide
  have hquote : IsValue "'".toList := by decide
  have hx : IsValue "x".toList := by decide
  have hbare : Written "'".toList "'".toList := by
    refine .bare ?_ ?_
    · exact ⟨fun c hc => Option.some.inj hc ▸ by decide, fun c hc => Option.some.inj hc ▸ by decide⟩
    · intro q inner _ hvalue
      exact absurd (congrArg List.length hvalue) (by simp)
  have hcomment : LineSays none ([' '] ++ '#' :: " note = 1".toList) :=
    .comment hspace hnote.unbroken
  have hexported : LineSays (some ("KEY".toList, "a=b # \"c\" ".toList))
      ([' '] ++ ("export ".toList ++ ['\u00a0']) ++ "KEY".toList ++ ['\t'] ++ ['='] ++ [] ++
        '\'' :: ("a=b # \"c\" ".toList ++ ['\'']) ++ [' ']) :=
    .sets (.exported hfixed) hkey hlong (.quoted (.inl rfl)) hspace htab hnone hspace
  have hunquoted : LineSays (some ("KEY".toList, "'".toList))
      ([] ++ [] ++ "KEY".toList ++ [] ++ ['='] ++ [] ++ "'".toList ++ []) :=
    .sets .none hkey hquote hbare hnone hnone hnone hnone
  have hlast : LineSays (some ("OTHER".toList, "x".toList))
      ([] ++ [] ++ "OTHER".toList ++ [] ++ ['='] ++ [] ++ '"' :: ("x".toList ++ ['"']) ++ []) :=
    .sets .none hother hx (.quoted (.inr rfl)) hnone hnone hnone hnone
  exact .cons hcomment (.inr (.inl rfl)) <| .cons hexported (.inr (.inr rfl)) <|
    .cons LineSays.empty (.inl rfl) <| .cons hunquoted (.inl rfl) <| .last hlast

/-- Of a name that is listed twice the first value counts, or the last one where it overrides; a
variable that stands keeps its value or loses it. -/
theorem repeated_key_read :
    ∃ (t : Tree) (p : Path) (text : Text) (pairs : List (Text × Text)),
      t.read p = .ok (Utf8.encode text) ∧ FileSays pairs text ∧
      (∃ env', load t p false [("OTHER".toList, "old".toList)] = (.ok (), env') ∧
        env'.lookup "KEY".toList = some "a=b # \"c\" ".toList ∧
        env'.lookup "OTHER".toList = some "old".toList) ∧
      ∃ env', load t p true [("OTHER".toList, "old".toList)] = (.ok (), env') ∧
        env'.lookup "KEY".toList = some "'".toList ∧ env'.lookup "OTHER".toList = some "x".toList := by
  have hread : (Tree.mk [([".env".toList], .file 1 (Utf8.encode
      " # note = 1\r\n export \u00a0KEY\t='a=b # \"c\" ' \r\nKEY='\nOTHER=\"x\"".toList))] [] 0 974).read
        standardPath = .ok (Utf8.encode
      " # note = 1\r\n export \u00a0KEY\t='a=b # \"c\" ' \r\nKEY='\nOTHER=\"x\"".toList) :=
    Tree.read_eq_ok.mpr ⟨by decide +kernel, [".env".toList], 1, by decide +kernel, rfl⟩
  obtain ⟨⟨env', hkeep, hlookup, -⟩, env'', hoverride, hlookup', -⟩ :=
    load_means_what_it_says [("OTHER".toList, "old".toList)] hread says_repeated
  refine ⟨_, _, _, _, hread, says_repeated, ⟨env', hkeep, ?_, ?_⟩, env'', hoverride, ?_, ?_⟩
  · rw [hlookup]
    decide
  · rw [hlookup]
    decide
  · rw [hlookup']
    decide
  · rw [hlookup']
    decide

end EnvFile
end Courier
