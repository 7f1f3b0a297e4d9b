/-!
# Ordered ranges of code points

A class of characters is kept as a table of ranges of code points in order,
and a code point is looked up in it by halving. A range may carry a value that
all of its code points share.

Key definitions: `Text.findRange`, `Text.inRanges`, `Text.valueAt?`.
-/

namespace Courier.Text

variable {α : Type}

/-- The entry of an ordered table, with an index from `lo` up to but not including
`hi`, in whose bounds `n` lies. -/
def findRange (bounds : α → Nat × Nat) (table : Array α) (n lo hi : Nat) : Option α :=
  if lo < hi then
    let mid := (lo + hi) / 2
    match table[mid]? with
    | none => none
    | some entry =>
      let (first, last) := bounds entry
      if n < first then findRange bounds table n lo mid
      else if last < n then findRange bounds table n (mid + 1) hi
      else some entry
  else none
termination_by hi - lo

/-- Does `n` lie in one of the ranges, given by their first and last numbers? -/
def inRanges (table : Array (Nat × Nat)) (n : Nat) : Bool :=
  (findRange id table n 0 table.size).isSome

/-- The range in which `n` lies, with its value. -/
def entryAt? (table : Array (Nat × Nat × α)) (n : Nat) : Option (Nat × Nat × α) :=
  findRange (fun entry => (entry.1, entry.2.1)) table n 0 table.size

/-- The value of the range in which `n` lies. -/
def valueAt? (table : Array (Nat × Nat × α)) (n : Nat) : Option α :=
  (entryAt? table n).map (·.2.2)

end Courier.Text
