import Courier.Console.Emoji
import Courier.Console.Wrap
import Courier.Journal
import Courier.Text.Word

/-!
# Status texts and records on the screen

A status text is broken into lines, with emoji in place of their names; its
markup means nothing. A record starts with its level in a column of eight
cells; its text is broken into the rest of the line, and every line is filled
up to the full width. Numbers and what is quoted are set off in a record.

Key definitions: `Screen.statusLines`, `Screen.recordLines`, `Screen.ofJournal`.
-/

namespace Courier.Screen

open Console

/-- The cells of the column in which the level of a record stands. -/
def levelWidth : Nat := 8

/-- A status text on a screen of so many cells. -/
def statusLines (width : Nat) (text : Text) : Text :=
  ended ((wrap .fold width (Drawing.plain (Emoji.replace text))).map Drawing.text)

/-- The text of a record as it is drawn, of which `before` stands right before the rest and
`runs` runs stand before that. What is quoted is a run, and so is a word that starts with a
digit elsewhere. -/
def accented : (fuel runs : Nat) → (before : Option Char) → Text → Drawing
  | 0, _, _, t => Drawing.plain t
  | _, _, _, [] => []
  | fuel + 1, runs, before, c :: rest =>
    let afterWord := (before.map Text.inWord).getD false
    let drawn (run : Text) : Drawing :=
      run.map (⟨·, some (runs, 0)⟩) ++
        accented fuel (runs + 1) run.getLast? ((c :: rest).drop run.length)
    let quoted := rest.takeWhile fun d => d ≠ c ∧ d ≠ '\n'
    if (c = '"' ∨ c = '\'') && !afterWord && (rest.drop quoted.length).head? = some c then
      drawn (c :: quoted ++ [c])
    else if c.isDigit && !afterWord then drawn ((c :: rest).takeWhile Text.inWord)
    else ⟨c, none⟩ :: accented fuel runs (some c) rest

/-- A record on a screen of so many cells. -/
def recordLines (width : Nat) (level : Level) (text : Text) : Text :=
  let room := width - levelWidth - 1
  let head (name : Text) : Text := Drawing.fit levelWidth (Drawing.plain name)
  let heads := head level.name :: List.replicate (text.length + 1) (head [])
  ended ((heads.zip (fillEnds .fold room (accented text.length 0 none text))).map fun (head, line) =>
    head ++ [' '] ++ line)

/-- What a journal leaves on a screen that shows the records of some levels. Status texts and
records may have lines of different length; without a length for theirs, no records are shown. -/
def ofJournal (width : Nat) (recordWidth : Option Nat) (shows : Level → Bool) (j : Journal) : Text :=
  j.flatMap fun
    | .record level text =>
      match recordWidth with
      | some width => if shows level then recordLines width level text else []
      | none => []
    | .status text => statusLines width text
    | .told .. | .request _ => []

end Courier.Screen
