import Courier.Http.Message

/-!
# Requests and responses on the wire

A request is sent as a line, header fields and its body. A response is read
from all bytes that came until the connection was closed: a status line, header
fields, and a body that is as long as they say, or comes in chunks that tell
their sizes, or reaches to the end. Interim responses are passed over. A body
that ends too early breaks off after what came of it.

Key definitions: `Wire.encode`, `Wire.decode`.
Key theorems: `Wire.cutLine_length`, `Wire.headLines_length`.
-/

namespace Courier.Wire

/-- The end of a line. -/
def lineEnd : Bytes := [0x0D, 0x0A]

/-- The header fields of a request. -/
def fields (r : Request) : List (Text × Text) :=
  [("Host".toList, r.url.netloc), ("Accept".toList, "*/*".toList),
    ("Accept-Encoding".toList, "gzip, deflate".toList), ("Connection".toList, "close".toList)] ++
    (r.contentLength.map fun n => ("Content-Length".toList, Text.ofNat n)).toList ++
    (r.contentType.map fun t => ("Content-Type".toList, t)).toList

/-- A request as it is sent. -/
def encode (r : Request) : Bytes :=
  Utf8.encode (r.method.name ++ [' '] ++ r.url.target ++ " HTTP/1.1".toList) ++ lineEnd ++
    (fields r).flatMap (fun field => Utf8.encode (field.1 ++ ": ".toList ++ field.2) ++ lineEnd) ++
    lineEnd ++ r.body

/-- A fault of the other side, in words. -/
def broken (words : String) : Fault :=
  .reported (.plain "RemoteProtocolError".toList (some words.toList))

/-- The fault of a connection that was closed too early. -/
def cutOff : Fault := broken "the connection was closed before the response was complete"

/-- The bytes of the first line with its line feed taken off, and the bytes after it. -/
def cutLine : Bytes → Option (Bytes × Bytes)
  | [] => none
  | b :: bs =>
    if b = 0x0A then some ([], bs) else (cutLine bs).map fun p => (b :: p.1, p.2)

theorem cutLine_length {bs line rest : Bytes} (h : cutLine bs = some (line, rest)) :
    rest.length < bs.length := by
  induction bs generalizing line with
  | nil => simp [cutLine] at h
  | cons b bs ih =>
    rw [cutLine] at h
    split at h
    · simp_all
    · obtain ⟨p, hp, h⟩ := Option.map_eq_some_iff.mp h
      simp only [Prod.mk.injEq] at h
      have := @ih p.1 (by rw [hp, ← h.2])
      simp only [List.length_cons]
      omega

/-- A line without a carriage return at its end. -/
def dropReturn (line : Bytes) : Bytes :=
  if line.getLast? = some 0x0D then line.dropLast else line

/-- The lines up to an empty one, and the bytes after that. -/
def headLines (bs : Bytes) : Option (List Bytes × Bytes) :=
  match _ : cutLine bs with
  | none => none
  | some (line, rest) =>
    if dropReturn line = [] then some ([], rest)
    else (headLines rest).map fun p => (dropReturn line :: p.1, p.2)
termination_by bs.length
decreasing_by exact @cutLine_length bs line rest (by assumption)

theorem headLines_length {bs rest : Bytes} {lines : List Bytes}
    (h : headLines bs = some (lines, rest)) : rest.length < bs.length := by
  fun_induction headLines bs generalizing lines with
  | case1 => simp at h
  | case2 bs line rest' hc _ =>
    simp only [Option.some.injEq, Prod.mk.injEq] at h
    rw [← h.2]
    exact cutLine_length hc
  | case3 bs line rest' hc _ ih =>
    obtain ⟨p, hp, h⟩ := Option.map_eq_some_iff.mp h
    simp only [Prod.mk.injEq] at h
    have := @ih p.1 (by rw [hp, ← h.2])
    exact Nat.lt_trans this (cutLine_length hc)

/-- The number that decimal digits write. -/
def decimal? (t : Text) : Option Nat :=
  if t != [] && t.all Char.isDigit then some (Decimal.natOfDigits t) else none

/-- The status of a response and its reason phrase, from the first line. -/
def statusLine? (line : Bytes) : Option (Nat × Bytes) :=
  match Text.dropLead? "HTTP/1.".toList (Latin1.decode line) with
  | some (_ :: ' ' :: rest) =>
    if rest.drop 3 = [] || (rest.drop 3).head? = some ' ' then
      (decimal? (rest.take 3)).map fun status =>
        (status, (rest.drop 4).map fun c => UInt8.ofNat c.toNat)
    else none
  | _ => none

/-- Is the byte a space or a tab? -/
def isPad (b : UInt8) : Bool := b == 0x20 || b == 0x09

/-- The header field of a line. -/
def header? (line : Bytes) : Option Header :=
  match line.dropWhile (· != 0x3A) with
  | _ :: value =>
    let value := ((value.dropWhile isPad).reverse.dropWhile isPad).reverse
    some ⟨line.takeWhile (· != 0x3A), value⟩
  | [] => none

/-- The number that hexadecimal digits write. -/
def hexadecimal? (t : Text) : Option Nat :=
  if t = [] then none
  else t.foldl (fun n c => n.bind fun n => (Percent.hexValue? c).map (16 * n + ·)) (some 0)

/-- The bytes after the end of a line that stands at their front. -/
def dropLineEnd : Bytes → Bytes
  | 0x0D :: 0x0A :: bs => bs
  | 0x0A :: bs => bs
  | bs => bs

theorem dropLineEnd_length (bs : Bytes) : (dropLineEnd bs).length ≤ bs.length := by
  unfold dropLineEnd
  split <;> grind

/-- A body in chunks, each after a line with its size; the size zero ends it. -/
def unchunk (bs : Bytes) : List Bytes × Option Fault :=
  match _ : cutLine bs with
  | none => ([], some cutOff)
  | some (line, rest) =>
    match hexadecimal? ((Latin1.decode (dropReturn line)).takeWhile Percent.isHex) with
    | none => ([], some (broken "a chunk of the body has no size"))
    | some 0 => ([], none)
    | some n =>
      if rest.length < n then ([rest], some cutOff)
      else
        let more := unchunk (dropLineEnd (rest.drop n))
        (rest.take n :: more.1, more.2)
termination_by bs.length
decreasing_by
  have hrest : rest.length < bs.length := @cutLine_length bs line rest (by assumption)
  have hdrop := dropLineEnd_length (rest.drop n)
  rw [List.length_drop] at hdrop
  omega

/-- The statuses of responses that have no body. -/
def isBodiless (status : Nat) : Bool := status == 204 || status == 304

/-- The body among the bytes after the header fields, and what breaks it off. -/
def bodyOf (status : Nat) (headers : Headers) (rest : Bytes) : List Bytes × Option Fault :=
  if isBodiless status then ([], none)
  else if ((headers.get? "transfer-encoding".toList).getD []).map Char.toLower = "chunked".toList then
    unchunk rest
  else
    match (headers.get? "content-length".toList).bind decimal? with
    | some n => if rest.length < n then ([rest], some cutOff) else ([rest.take n], none)
    | none => ([rest], none)

/-- The response that the bytes hold. -/
def decode (bs : Bytes) : Except Fault Response :=
  match _ : headLines bs with
  | none => .error cutOff
  | some ([], _) => .error (broken "the response has no status line")
  | some (line :: lines, rest) =>
    match statusLine? line with
    | none => .error (broken "the response has no status line")
    | some (status, reason) =>
      if status < 200 then decode rest
      else
        let headers := lines.filterMap header?
        let body := bodyOf status headers rest
        .ok ⟨status, some reason, headers, body.1, body.2, none⟩
termination_by bs.length
decreasing_by exact @headLines_length bs rest (line :: lines) (by assumption)

end Courier.Wire
