import Courier.Text.Blank

/-!
# Matching without regard to case

The markers of a header value are written in ASCII and matched in any letter
case. Beside the ASCII capitals, a few characters elsewhere in Unicode fold to
an ASCII letter and match it too: the dotted capital and the dotless small i,
the long s and the Kelvin sign.

Key definitions: `Text.foldsTo`, `Text.dropCaseless?`.
-/

namespace Courier.Text

/-- Is `c` the small ASCII letter `p`, or does it fold to it? Characters that
are no letters match themselves only. -/
def foldsTo (p c : Char) : Bool :=
  c.toLower == p || (p == 'i' && (c == '\u0130' || c == '\u0131')) ||
    (p == 's' && c == '\u017f') || (p == 'k' && c == '\u212a')

/-- The text after a marker, when it starts with the marker in any letter case.
The marker is given in small letters. -/
def dropCaseless? : Text → Text → Option Text
  | [], t => some t
  | _ :: _, [] => none
  | p :: ps, c :: cs => if foldsTo p c then dropCaseless? ps cs else none

/-- The result of `f` at the first place of the text, from the front, at which it has one. -/
def searchFor (f : Text → Option Text) : Text → Option Text
  | [] => none
  | c :: cs => (f (c :: cs)).or (searchFor f cs)

end Courier.Text
