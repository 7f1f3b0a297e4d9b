import Courier.Console.Colour
import Courier.Text.Lower

/-!
# Styles

A style is written in words: attributes, which a `not` takes off, the colour of
the text, the colour of the ground after `on`, and a link. Attributes have
short words, too. A style has one standard spelling, by which two texts for it
are known to mean the same.

Key definitions: `Style`, `Style.ofWords?`, `Style.standard`.
-/

namespace Courier

/-- A style: attributes that are set or taken off, the colours of text and ground, a link. -/
structure Style where
  attributes : List (String × Bool)
  colour : Option Text
  ground : Option Text
  link : Option Text

namespace Style

/-- The words for the attributes of a style, in the order in which a style lists them. -/
def attributeWords : List (String × List String) :=
  [("bold", ["bold", "b"]), ("dim", ["dim", "d"]), ("italic", ["italic", "i"]),
    ("underline", ["underline", "u"]), ("blink", ["blink"]), ("blink2", ["blink2"]),
    ("reverse", ["reverse", "r"]), ("conceal", ["conceal", "c"]), ("strike", ["strike", "s"]),
    ("underline2", ["underline2", "uu"]), ("frame", ["frame"]), ("encircle", ["encircle"]),
    ("overline", ["overline", "o"])]

/-- The name of the attribute for which a word stands. -/
def attribute? (word : Text) : Option String :=
  (attributeWords.find? fun a => a.2.any (·.toList == word)).map (·.1)

/-- A style with more words, read one after another; none if they make no style. -/
def addWords : List Text → Style → Except Colour.Fault (Option Style)
  | [], s => .ok (some s)
  | word :: rest, s =>
    let small := Text.lower word
    if small = "on".toList then
      match rest with
      | [] => .ok none
      | colour :: rest => do
        let colour := Text.lower colour
        if ← Colour.isColour colour then addWords rest { s with ground := some colour }
        else return none
    else if small = "not".toList then
      match rest with
      | [] => .ok none
      | word :: rest =>
        match attribute? word with
        | some a => addWords rest { s with attributes := (a, false) :: s.attributes }
        | none => .ok none
    else if small = "link".toList then
      match rest with
      | [] => .ok none
      | link :: rest => addWords rest { s with link := some link }
    else
      match attribute? small with
      | some a => addWords rest { s with attributes := (a, true) :: s.attributes }
      | none => do
        if ← Colour.isColour small then addWords rest { s with colour := some small }
        else return none

/-- The style that words make. -/
def ofWords? (words : List Text) : Except Colour.Fault (Option Style) :=
  addWords words ⟨[], none, none, none⟩

/-- The words of a style in their standard order. -/
def words (s : Style) : List Text :=
  attributeWords.filterMap (fun a =>
      (s.attributes.lookup a.1).map fun isSet =>
        if isSet then a.1.toList else "not ".toList ++ a.1.toList) ++
    s.colour.toList ++ (s.ground.map fun c => "on ".toList ++ c).toList ++
    (s.link.map fun l => "link ".toList ++ l).toList

/-- The standard spelling of the style that a text is; what is no style is only brought to
small letters. -/
def standard (t : Text) : Except Colour.Fault Text :=
  let trimmed := Text.trim t
  if trimmed = [] || trimmed = "none".toList then .ok "none".toList
  else
    (ofWords? (Text.words t)).map fun
      | none => Text.lower trimmed
      | some s => [' '].intercalate s.words

end Style
end Courier
