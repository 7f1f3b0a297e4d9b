import Courier.Text.Lines

/-!
# A line and its end

A line without a break in it, followed by its end, is the first of the lines.
A carriage return ends a line together with a line feed after it, so a line
feed that was to end an empty line may be taken along with it.

Key definitions: `Text.Unbroken`, `Text.IsLineEnd`.
Key theorem: `Text.lines_cons`.
-/

namespace Courier.Text

/-- No character of the text ends a line. -/
def Unbroken (t : Text) : Prop := ∀ c ∈ t, isBreak c = false

instance (t : Text) : Decidable (Unbroken t) := List.decidableBAll (isBreak · = false) t

/-- A line feed, a carriage return, or both in a row. -/
def IsLineEnd (t : Text) : Prop := t = ['\n'] ∨ t = ['\r', '\n'] ∨ t = ['\r']

variable {line ending : Text}

theorem Unbroken.append {t t' : Text} (h : Unbroken t) (h' : Unbroken t') : Unbroken (t ++ t') :=
  fun c hc => (List.mem_append.mp hc).elim (h c) (h' c)

theorem linesFrom_cons {c : Char} (hc : isBreak c = false) (sofar rest : Text) :
    linesFrom sofar (c :: rest) = linesFrom (c :: sofar) rest := by
  rw [linesFrom.eq_def]
  split
  · rename_i heq
    exact absurd heq (by simp)
  · rename_i heq
    rw [(List.cons.inj heq).1] at hc
    exact absurd hc (by decide)
  · rename_i heq
    obtain ⟨rfl, rfl⟩ := List.cons.inj heq
    rw [if_neg (by simp [hc])]

/-- What holds no break is read into the line. -/
theorem linesFrom_append : ∀ {line : Text}, Unbroken line → ∀ sofar rest : Text,
    linesFrom sofar (line ++ rest) = linesFrom (line.reverse ++ sofar) rest
  | [], _, _, _ => rfl
  | c :: line, h, sofar, rest => by
    obtain ⟨hc, hline⟩ := List.forall_mem_cons.mp h
    rw [List.cons_append, linesFrom_cons hc, linesFrom_append hline, List.reverse_cons,
      List.append_assoc]
    rfl

theorem linesFrom_feed (sofar rest : Text) :
    linesFrom sofar ('\n' :: rest) = sofar.reverse :: lines rest := by
  rw [linesFrom.eq_def]
  rfl

theorem linesFrom_returnFeed (sofar rest : Text) :
    linesFrom sofar ('\r' :: '\n' :: rest) = sofar.reverse :: lines rest := by
  rw [linesFrom.eq_def]
  rfl

theorem linesFrom_return {rest : Text} (h : rest.head? ≠ some '\n') (sofar : Text) :
    linesFrom sofar ('\r' :: rest) = sofar.reverse :: lines rest := by
  rw [linesFrom.eq_def]
  split
  · rename_i heq
    exact absurd heq (by simp)
  · rename_i heq
    rw [(List.cons.inj heq).2] at h
    exact absurd rfl h
  · rename_i heq
    obtain ⟨rfl, rfl⟩ := List.cons.inj heq
    rfl

/-- **A line with its end is the first of the lines,** and the lines of the rest follow. Where
the end and the rest meet in a carriage return and a line feed, these are one end, and the
empty line between them is gone. -/
theorem lines_cons (hline : Unbroken line) (hend : IsLineEnd ending) (rest : Text) :
    lines (line ++ ending ++ rest) = line :: lines rest ∨
      ∃ rest', rest = '\n' :: rest' ∧ lines (line ++ ending ++ rest) = line :: lines rest' := by
  have hread := linesFrom_append hline [] (ending ++ rest)
  rw [List.append_nil] at hread
  rw [lines, List.append_assoc, hread]
  rcases hend with rfl | rfl | rfl
  · left
    rw [List.singleton_append, linesFrom_feed, List.reverse_reverse]
  · left
    rw [List.cons_append, List.singleton_append, linesFrom_returnFeed, List.reverse_reverse]
  · rw [List.singleton_append]
    by_cases h : rest.head? = some '\n'
    · right
      obtain ⟨rest', rfl⟩ := List.head?_eq_some_iff.mp h
      exact ⟨rest', rfl, by rw [linesFrom_returnFeed, List.reverse_reverse]⟩
    · left
      rw [linesFrom_return h, List.reverse_reverse]

/-- A line that no end follows is the only one, if there is anything in it. -/
theorem lines_unbroken (hline : Unbroken line) :
    lines line = if line = [] then [] else [line] := by
  have hread := linesFrom_append hline [] []
  rw [List.append_nil, List.append_nil] at hread
  rw [lines, hread, linesFrom]
  simp

end Courier.Text
