import Courier.Console.Drawing
import Courier.Console.Emoji
import Courier.Console.Style
import Courier.Fault

/-!
# Markup in console texts

A tag in square brackets opens a style, and one with a slash closes the latest
open tag of the same style, or the latest open tag when it names none. Tags
take no room on the screen. A backslash before a tag takes its meaning off, and
brackets that do not start like a tag are plain text. Closing what is not open
is a fault. A tag whose name starts with an at sign gives an action in place of
a style, and closing it is a fault when the action is not written well. In the
text between tags emoji can be written by their names.

Key definitions: `Markup.Piece`, `Markup.pieces`, `Markup.checkAction`, `Markup.drawn`.
-/

namespace Courier.Markup

open Console

/-- A piece of a text with markup, and the place at which it stands. -/
inductive Piece where
  | plain (text : Text)
  /-- Text that stands for itself by a backslash, or a backslash that does. -/
  | escaped (text : Text)
  /-- A tag, with the brackets taken off. -/
  | tag (place : Nat) (body : Text)
  deriving DecidableEq, Repr

/-- May a tag start with the character? -/
def startsTag (c : Char) : Bool := c.isLower || c == '#' || c == '/' || c == '@'

/-- The inside of a tag whose opening bracket stands before the text. -/
def tagBody? (t : Text) : Option Text :=
  match t with
  | c :: _ =>
    let body := t.takeWhile fun d => !(d == '[' || d == ']')
    if startsTag c && (t.drop body.length).head? = some ']' then some body else none
  | [] => none

/-- The pieces of a text that stands after `place` characters. Half of the
backslashes before a tag are dropped, and an odd one makes the tag plain text. -/
def piecesFrom : (fuel place : Nat) → Text → List Piece
  | 0, _, _ => []
  | _, _, [] => []
  | fuel + 1, place, c :: cs =>
    let slashes := ((c :: cs).takeWhile (· == '\\')).length
    match (c :: cs).drop slashes with
    | '[' :: inner =>
      match tagBody? inner with
      | none =>
        -- a backslash before a bracket that opens no tag is dropped, too
        if slashes = 0 then .plain ['['] :: piecesFrom fuel (place + 1) inner
        else
          .plain (List.replicate (slashes - 1) '\\' ++ ['[']) ::
            piecesFrom fuel (place + slashes + 1) inner
      | some body =>
        let rest := inner.drop (body.length + 1)
        let next := place + slashes + body.length + 2
        let kept := Piece.escaped (List.replicate (slashes / 2) '\\')
        if slashes % 2 = 1 then
          kept :: .escaped (['['] ++ body ++ [']']) :: piecesFrom fuel next rest
        else kept :: .tag (place + slashes) body :: piecesFrom fuel next rest
    | _ =>
      if slashes = 0 then .plain [c] :: piecesFrom fuel (place + 1) cs
      else
        .plain (List.replicate slashes '\\') ::
          piecesFrom fuel (place + slashes) ((c :: cs).drop slashes)

/-- Pieces in which plain text that runs on is one piece. -/
def merged : List Piece → List Piece
  | [] => []
  | .plain a :: rest =>
    match merged rest with
    | .plain b :: rest => .plain (a ++ b) :: rest
    | rest => .plain a :: rest
  | piece :: rest => piece :: merged rest

/-- The pieces of a text with markup. -/
def pieces (t : Text) : List Piece := merged (piecesFrom (t.length + 1) 0 t)

/-! ### Actions -/

/-- The name and the arguments of an action, where it is written with a name; a name alone has
no arguments. Else all of it is arguments. -/
def callOf (action : Text) : Text × Text :=
  let name := action.takeWhile fun c => Text.inWord c || c == '.'
  match action.drop name.length with
  | [] => (name, "()".toList)
  | '(' :: rest =>
    if rest.getLast? = some ')' && !rest.contains '\n' then (name, '(' :: rest) else ([], action)
  | _ => ([], action)

/-- Checks that the arguments of an action are literals. -/
def checkAction (action : Text) : Except Fault Unit :=
  let arguments := (callOf (Text.trim action)).2
  match Literal.tree? arguments with
  | .error f => .error (.unreadableAction arguments action f)
  | .ok tree =>
    match Literal.value? tree with
    | .error f => .error (.worthlessAction action f)
    | .ok _ => .ok ()

/-! ### The text without its tags -/

/-- A tag that is open: its name in the standard spelling, and the value after an equals sign. -/
structure Tag where
  name : Text
  value : Option Text
  deriving DecidableEq, Repr

/-- The name of a tag and the value after an equals sign. -/
def nameAndValue (body : Text) : Text × Option Text :=
  match Text.cut '=' body with
  | some (name, value) => (name, some value)
  | none => (body, none)

/-- What the name of a tag means, in the standard spelling. -/
def meaning (name : Text) : Except Fault Text := (Style.standard name).mapError .colour

/-- Closes a tag. One that names an action must have it written well by then. -/
def close (tag : Tag) : Except Fault Unit :=
  match tag.name, tag.value with
  | '@' :: _, some (c :: action) => checkAction (c :: action)
  | _, _ => .ok ()

/-- The open tags after a tag, the latest first. -/
def step (place : Nat) (body : Text) (opened : List Tag) : Except Fault (List Tag) :=
  match nameAndValue body with
  | ('/' :: name, _) =>
    if Text.trim name = [] then
      match opened with
      | [] => .error (.nothingToClose place)
      | tag :: rest => do
        close tag
        return rest
    else do
      let name ← meaning (Text.trim name)
      match opened.find? (·.name = name) with
      | none => throw (.unopenedTag body place)
      | some tag =>
        close tag
        return opened.eraseP (·.name = name)
  | (name, value) => do return ⟨← meaning name, value⟩ :: opened

/-- Pieces as they are drawn after so many tags, while some are open. -/
def drawnFrom : (tags : Nat) → List Tag → List Piece → Except Fault Drawing
  | _, _, [] => .ok []
  | tags, opened, .plain t :: rest | tags, opened, .escaped t :: rest =>
    let run := if opened = [] then none else some (tags, 0)
    (drawnFrom tags opened rest).map (((Emoji.replace t).map (⟨·, run⟩)) ++ ·)
  | tags, opened, .tag place body :: rest => do
    drawnFrom (tags + 1) (← step place body opened) rest

/-- The text as it is drawn, without its tags. -/
def drawn (t : Text) : Except Fault Drawing :=
  if t.contains '[' then drawnFrom 0 [] (pieces t) else .ok (Drawing.plain (Emoji.replace t))

end Courier.Markup
