import Courier.Text.Blank

/-!
# Cutting a text

A text is cut at every occurrence of a separator, or at the first one only.
Cutting at every occurrence always gives one piece more than there are
separators, so nothing of the text is lost but the separators themselves. The
words of a text are what its white space separates.

Key definitions: `Text.splitOn`, `Text.cut`, `Text.words`.
-/

namespace Courier.Text

/-- The parts of a list between the elements that separate, of which none is in a part. -/
def splitWhere {α : Type} (separates : α → Bool) : List α → List (List α)
  | [] => [[]]
  | a :: rest =>
    if separates a then [] :: splitWhere separates rest
    else
      match splitWhere separates rest with
      | [] => [[a]]
      | part :: parts => (a :: part) :: parts

/-- The parts of a text between separators. -/
def splitOn (sep : Char) (t : Text) : List Text := splitWhere (· = sep) t

/-- The texts before and after the first separator, if there is one. -/
def cut (sep : Char) : Text → Option (Text × Text)
  | [] => none
  | c :: cs => if c = sep then some ([], cs) else (cut sep cs).map fun p => (c :: p.1, p.2)

/-- The words of a text, which stand between white space. -/
def words (t : Text) : List Text :=
  (t.splitBy fun a b => isBlank a == isBlank b).filter fun w => !w.any isBlank

end Courier.Text
