import Courier.Deflate.Wrapped
import Courier.Http.Headers
import Courier.Text.Split

/-!
# Coded bodies

A response may name the codings that its body went through. They are undone in
the opposite order while the body arrives: what one piece of it adds to the
bytes that the body stands for is passed on at once. A name that is not known
is passed over.

Bytes in the coding deflate are read with the wrapping of zlib, and without any
wrapping where the first piece of them does not fit into that one.

Key definitions: `Coding`, `Headers.codings`, `Coder`, `Coder.feed`, `Coder.undoAll`.
Key theorems: `Coder.undoAll_nil`.
-/

namespace Courier

/-- A coding that can be undone. -/
inductive Coding where
  | gzip
  | deflate
  deriving DecidableEq, Repr

/-- The coding of a name in small letters. -/
def Coding.named? (name : Text) : Option Coding :=
  if name = "gzip".toList then some .gzip
  else if name = "deflate".toList then some .deflate
  else none

namespace Headers

/-- The field that names the codings of a body. -/
def codingField : Text := "content-encoding".toList

/-- The codings of the body that comes with the header fields, in the order in which the
body went through them. -/
def codings (hs : Headers) : List Coding :=
  (hs.values codingField).flatMap fun value =>
    (Text.splitOn ',' (hs.reader value)).filterMap fun name =>
      Coding.named? ((Text.trim name).map Char.toLower)

end Headers

/-- A coding that is being undone. -/
structure Coder where
  wrapping : Deflate.Wrapping
  /-- May it turn out that there is no wrapping? -/
  undecided : Bool
  /-- The bytes so far. -/
  given : Bytes
  /-- How many of the bytes that they stand for were passed on. -/
  passed : Nat
  deriving DecidableEq, Repr

namespace Coder

/-- The coder of a coding, before any bytes. -/
def ofCoding : Coding → Coder
  | .gzip => ⟨.gzip, false, [], 0⟩
  | .deflate => ⟨.zlib, true, [], 0⟩

/-- The coder after more bytes, which stand for `all` together with those before, and the
part of `all` that is new. -/
def passOn (c : Coder) (w : Deflate.Wrapping) (more all : Bytes) : Bytes × Coder :=
  (all.drop c.passed, ⟨w, false, c.given ++ more, all.length⟩)

/-- Gives more bytes to a coder. -/
def feed (c : Coder) (more : Bytes) : Except Deflate.Flaw (Bytes × Coder) :=
  match Deflate.decode c.wrapping (c.given ++ more) with
  | .ok all => .ok (c.passOn c.wrapping more all)
  | .error f =>
    if c.undecided then (Deflate.decode .none (c.given ++ more)).map (c.passOn .none more)
    else .error f

/-- Gives bytes to the first of several coders, and to each other what the one before it
passes on. -/
def undo : List Coder → Bytes → Except Deflate.Flaw (Bytes × List Coder)
  | [], bs => .ok (bs, [])
  | c :: cs, bs => do
    let (bs, c) ← c.feed bs
    let (bs, cs) ← undo cs bs
    return (bs, c :: cs)

/-- What the pieces of a body stand for, given one after another to several coders. -/
def undoAll : List Coder → List Bytes → Except Deflate.Flaw Bytes
  | _, [] => .ok []
  | cs, piece :: pieces => do
    let (bs, cs) ← undo cs piece
    return bs ++ (← undoAll cs pieces)

/-- Without codings a body stands for itself. -/
theorem undoAll_nil (pieces : List Bytes) : undoAll [] pieces = .ok pieces.flatten := by
  induction pieces with
  | nil => rfl
  | cons piece pieces ih =>
    change (undoAll [] pieces).map (piece ++ ·) = _
    rw [ih]
    rfl

end Coder

/-- The coders for the body that comes with the header fields. -/
def Headers.coders (hs : Headers) : List Coder := hs.codings.reverse.map .ofCoding

end Courier
