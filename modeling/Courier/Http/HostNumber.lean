import Courier.Bytes.Percent
import Courier.Text.Split

/-!
# Numeric host names

A host may be given by number: four decimal numbers with dots between them, or
up to eight groups of hexadecimal digits with colons between them, of which
one run of zero groups may be left out.

Key definitions: `HostNumber.looksDotted`, `HostNumber.isDotted`, `HostNumber.isGrouped`.
-/

namespace Courier.HostNumber

/-- Does the text look as if it were meant for four numbers with dots? -/
def looksDotted (t : Text) : Bool :=
  let parts := Text.splitOn '.' t
  parts.length == 4 && parts.all fun part => part != [] && part.all Char.isDigit

/-- Is the text a decimal number below 256, without needless zeros? -/
def isOctet (t : Text) : Bool :=
  t != [] && t.all Char.isDigit && t.length ≤ 3 && (t == ['0'] || t.head? != some '0') &&
    t.foldl (fun n d => 10 * n + (d.toNat - 48)) 0 < 256

/-- Is the text four octets with dots between them? -/
def isDotted (t : Text) : Bool :=
  let parts := Text.splitOn '.' t
  parts.length == 4 && parts.all isOctet

/-- Is the text a group of one to four hexadecimal digits? -/
def isGroup (t : Text) : Bool := t != [] && t.all Percent.isHex && t.length ≤ 4

/-- The groups of an address, a closing dotted part standing for two of them. -/
def groups? (t : Text) : Option (List Text) :=
  let parts := Text.splitOn ':' t
  let last := parts.getLast?.getD []
  if parts.length < 3 then none
  else if last.contains '.' then
    if isDotted last then some (parts.dropLast ++ [['0'], ['0']]) else none
  else some parts

/-- The groups of one side of the gap; at an end of the address the gap leaves one
empty group. -/
def side (parts : List Text) : List Text := if parts = [[]] then [] else parts

/-- Are these the groups of an address? An inner empty group is the gap. -/
def areGroups (parts : List Text) : Bool :=
  match (parts.drop 1).dropLast.filter (· == []) with
  | [] => parts.length == 8 && parts.all isGroup
  | [_] =>
    let before := ((parts.drop 1).takeWhile (· != [])).length + 1
    let high := side (parts.take before)
    let low := side (parts.drop (before + 1))
    (high ++ low).all isGroup && high.length + low.length < 8
  | _ => false

/-- Is the text groups with colons, with or without a zone after a percent sign? -/
def isGrouped (t : Text) : Bool :=
  let (address, soundZone) :=
    match Text.cut '%' t with
    | none => (t, true)
    | some (address, zone) => (address, zone != [] && !zone.contains '%')
  soundZone && !address.contains '/' &&
    (match groups? address with
      | some parts => parts.length ≤ 9 && areGroups parts
      | none => false)

end Courier.HostNumber
