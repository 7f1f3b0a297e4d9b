import Courier.Text.Blank

/-!
# Tables

A table is a list of pairs in which each key stands at most once. Setting a
key that stands keeps its place; a new key goes to the end.

Key definitions: `Table`, `Table.set`, `Table.ofPairs`.
-/

namespace Courier

/-- Values by their keys, in the order in which the keys came. -/
abbrev Table (α : Type) := List (Text × α)

namespace Table

variable {α : Type}

/-- The table with a key set to a value. -/
def set : Table α → Text → α → Table α
  | [], k, v => [(k, v)]
  | (k', v') :: rest, k, v => if k' = k then (k, v) :: rest else (k', v') :: set rest k v

/-- The table of pairs that come one after another; the last value of a key counts. -/
def ofPairs (pairs : List (Text × α)) : Table α :=
  pairs.foldl (fun table pair => set table pair.1 pair.2) []

/-- A key that was just set has its new value, and the others keep theirs. -/
theorem lookup_set (t : Table α) (k k' : Text) (v : α) :
    (t.set k v).lookup k' = if k' = k then some v else t.lookup k' := by
  induction t with
  | nil =>
    rw [set, List.lookup_cons, List.lookup_nil]
    by_cases h : k' = k
    · simp [h]
    · simp [h, beq_eq_false_iff_ne.mpr h]
  | cons p rest ih =>
    obtain ⟨key, value⟩ := p
    rw [set]
    by_cases hk : key = k
    · subst hk
      rw [if_pos rfl, List.lookup_cons, List.lookup_cons]
      by_cases h : k' = key
      · simp [h]
      · simp [h, beq_eq_false_iff_ne.mpr h]
    · rw [if_neg hk, List.lookup_cons, List.lookup_cons, ih]
      by_cases h : k' = key
      · subst h
        simp [hk]
      · simp [beq_eq_false_iff_ne.mpr h]

end Table
end Courier
