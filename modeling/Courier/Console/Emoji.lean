import Courier.Console.EmojiNames
import Courier.Text.Lower
import Courier.Text.Split

/-!
# Emoji by their names

A name between two colons stands for its emoji. The name may end in `-emoji` or
`-text`, which asks for that looks of it. What stands between two colons is
taken for a name when no white space is in it; where it names no emoji, it
stays as it is with both of its colons.

Key definitions: `Emoji.named?`, `Emoji.replace`.
-/

namespace Courier.Emoji

/-- Words in pairs. -/
def paired : List Text → List (Text × Text)
  | a :: b :: rest => (a, b) :: paired rest
  | _ => []

/-- The emoji by their names. -/
def table : List (Text × Text) := paired (Text.words names.toList)

/-- The name without an ending that asks for a looks, and the character that gives it. -/
def splitLooks (name : Text) : Text × Text :=
  let trimmed (ending : String) := Text.dropLead? ending.toList.reverse name.reverse
  match trimmed "-emoji", trimmed "-text" with
  | some rest, _ => (rest.reverse, ['\ufe0f'])
  | none, some rest => (rest.reverse, ['\ufe0e'])
  | none, none => (name, [])

/-- What stands for a text between two colons, if it names an emoji. -/
def named? (name : Text) : Option Text :=
  let (name, looks) := splitLooks name
  (table.lookup (Text.lower name)).map (· ++ looks)

/-- The text with names replaced, of which `name?` may be the part after a
colon that is still open, last character first. -/
def replaceFrom : Option Text → Text → Text
  | none, [] => []
  | some name, [] => ':' :: name.reverse
  | none, c :: cs => if c = ':' then replaceFrom (some []) cs else c :: replaceFrom none cs
  | some name, c :: cs =>
    if c = ':' then
      match named? name.reverse with
      | some emoji => emoji ++ replaceFrom none cs
      | none => ':' :: name.reverse ++ ':' :: replaceFrom none cs
    else if Text.isBlank c then ':' :: name.reverse ++ c :: replaceFrom none cs
    else replaceFrom (some (c :: name)) cs

/-- The text with the names of emoji replaced. -/
def replace (t : Text) : Text := replaceFrom none t

end Courier.Emoji
