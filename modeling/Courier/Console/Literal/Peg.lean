import Courier.Console.Literal.Token
import Std.Data.HashMap

/-!
# Reading tokens by a grammar

A grammar gives each of its rules a pattern. A pattern takes tokens from where
the reader stands, or it fails and the reader stands where it stood. Of several
choices the first one that does not fail counts. While a reader searches for
the cause of a failure, patterns may also hold findings: where one of these
takes tokens and bears its suspicion out, the whole reading stops with a fault.

Key definitions: `Pattern`, `Tree`, `Grammar`, `Reader`, `Grammar.read`.
-/

namespace Courier.Literal

/-- A pattern of tokens, with the rules `ρ` and the findings `φ` of a grammar. -/
inductive Pattern (ρ φ : Type) where
  /-- A sign or a keyword, one of these. -/
  | sign (texts : List String)
  /-- A token of a kind. -/
  | kind (k : Token.Kind)
  /-- A name, one of these. -/
  | named (texts : List String)
  /-- One pattern after another. -/
  | all (ps : List (Pattern ρ φ))
  /-- The first pattern that does not fail. -/
  | choice (ps : List (Pattern ρ φ))
  /-- A pattern as often as it does not fail. -/
  | many (p : Pattern ρ φ)
  /-- A pattern, if it does not fail. -/
  | maybe (p : Pattern ρ φ)
  /-- Nothing, if the pattern does not fail here. -/
  | ahead (p : Pattern ρ φ)
  /-- Nothing, if the pattern fails here. -/
  | absent (p : Pattern ρ φ)
  /-- The pattern of a rule. -/
  | rule (r : ρ)
  /-- A pattern without findings in it. -/
  | bare (p : Pattern ρ φ)
  /-- A finding, which itself takes nothing and fails. -/
  | finding (f : φ)
  /-- A fault. -/
  | fault (f : Fault)

/-- Tokens as the rules of a grammar put them together. -/
inductive Tree (ρ : Type) where
  | leaf (t : Token)
  | node (r : ρ) (parts : List (Tree ρ))

/-- A grammar. -/
structure Grammar (ρ φ : Type) where
  pattern : ρ → Pattern ρ φ
  /-- Is what a rule takes at a place kept, for when it is asked for there again? -/
  kept : ρ → Bool
  /-- What is wrong with what a rule takes. -/
  refuses : ρ → List (Tree ρ) → Option Fault
  /-- The patterns of a finding, and what each of them tells of what it takes and of the last
  token of that. -/
  suspicions : φ → List (Pattern ρ φ × (List (Tree ρ) → Token → Option Fault))

/-- A reader of tokens. -/
structure Reader (ρ : Type) [BEq ρ] [Hashable ρ] where
  tokens : Array Token
  /-- What a reader meets after the last token. -/
  after : Fault
  place : Nat
  /-- The last place at which a token has been looked at. -/
  furthest : Nat
  /-- Does the reader search for the cause of a failure? -/
  searching : Bool
  /-- What rules took at places, and the places after that. -/
  known : Std.HashMap (ρ × Nat) (Option (List (Tree ρ)) × Nat)

variable {ρ φ : Type} [BEq ρ] [Hashable ρ]

/-- Reading with a reader: it may stop with a fault. -/
abbrev Parse (ρ : Type) [BEq ρ] [Hashable ρ] := ExceptT Fault (StateM (Reader ρ))

/-- What a pattern takes, unless it fails. -/
abbrev Taken (ρ : Type) := Option (List (Tree ρ))

namespace Parse

/-- The token at which the reader stands. -/
def token : Parse ρ Token := do
  let r ← get
  match r.tokens[r.place]? with
  | some t =>
    set { r with furthest := max r.furthest r.place }
    return t
  | none =>
    set { r with furthest := r.tokens.size }
    throw r.after

/-- Takes the token at which the reader stands, if it passes a test. -/
def takeIf (test : Token → Bool) : Parse ρ (Taken ρ) := do
  let t ← token
  if test t then
    modify fun r => { r with place := r.place + 1 }
    return some [.leaf t]
  else return none

/-- What a step takes; where it fails the reader stands where it stood. -/
def attempt (step : Parse ρ (Taken ρ)) : Parse ρ (Taken ρ) := do
  let place := (← get).place
  match ← step with
  | some ts => return some ts
  | none =>
    modify fun r => { r with place }
    return none

/-- What a step would take; the reader stands where it stood. -/
def peek (step : Parse ρ (Taken ρ)) : Parse ρ (Taken ρ) := do
  let place := (← get).place
  let taken ← step
  modify fun r => { r with place }
  return taken

/-- What a step takes while the reader does not search. -/
def quietly (step : Parse ρ (Taken ρ)) : Parse ρ (Taken ρ) := do
  let searching := (← get).searching
  modify fun r => { r with searching := false }
  let taken ← step
  modify fun r => { r with searching }
  return taken

/-- What steps take one after another. -/
def inTurn {α : Type} (step : α → Parse ρ (Taken ρ)) : List α → Parse ρ (Taken ρ)
  | [] => return some []
  | a :: rest => do
    match ← step a with
    | none => return none
    | some ts =>
      match ← inTurn step rest with
      | none => return none
      | some us => return some (ts ++ us)

/-- What the first step takes that does not fail. -/
def firstOf {α : Type} (step : α → Parse ρ (Taken ρ)) : List α → Parse ρ (Taken ρ)
  | [] => return none
  | a :: rest => do
    match ← attempt (step a) with
    | some ts => return some ts
    | none => firstOf step rest

/-- Tries suspicions one after another, always from the same place, and fails. -/
def suspect (step : Pattern ρ φ → Parse ρ (Taken ρ)) :
    List (Pattern ρ φ × (List (Tree ρ) → Token → Option Fault)) → Parse ρ (Taken ρ)
  | [] => return none
  | (p, tells) :: rest => do
    let place := (← get).place
    let taken ← step p
    let last := (← get).tokens[(← get).place - 1]?
    modify fun r => { r with place }
    match taken, last with
    | some ts, some t =>
      match tells ts t with
      | some f => throw f
      | none => suspect step rest
    | _, _ => suspect step rest

end Parse

open Parse

/-- What a pattern takes from where the reader stands. -/
def Grammar.take (g : Grammar ρ φ) : (fuel : Nat) → Pattern ρ φ → Parse ρ (Taken ρ)
  | 0, _ => return none
  | fuel + 1, p =>
    match p with
    | .sign texts =>
      takeIf fun t => (t.kind = .sign || t.kind = .keyword) && texts.any (·.toList == t.text)
    | .kind k => takeIf (·.kind = k)
    | .named texts => takeIf fun t => t.kind = .name && texts.any (·.toList == t.text)
    | .all ps => attempt (inTurn (g.take fuel) ps)
    | .choice ps => firstOf (g.take fuel) ps
    | .many p => do
      let place := (← get).place
      match ← attempt (g.take fuel p) with
      | none => return some []
      | some ts =>
        if (← get).place = place then return some ts
        else
          match ← g.take fuel (.many p) with
          | none => return some ts
          | some us => return some (ts ++ us)
    | .maybe p => do return some ((← attempt (g.take fuel p)).getD [])
    | .ahead p => do return (← peek (g.take fuel p)).map fun _ => []
    | .absent p => do
      match ← peek (g.take fuel p) with
      | none => return some []
      | some _ => return none
    | .rule r => do
      let place := (← get).place
      let known := (← get).known
      match if g.kept r then known[(r, place)]? else none with
      | some (taken, after) =>
        modify fun s => { s with place := after }
        return taken
      | none =>
        let taken ← attempt (g.take fuel (g.pattern r))
        match taken.bind (g.refuses r) with
        | some f => throw f
        | none =>
          let taken := taken.map fun ts => [.node r ts]
          if g.kept r then
            modify fun s => { s with known := s.known.insert (r, place) (taken, s.place) }
          return taken
    | .bare p => quietly (g.take fuel p)
    | .finding f => do
      if (← get).searching then suspect (g.take fuel) (g.suspicions f) else return none
    | .fault f => throw f

/-- The tokens as a rule puts them together, if it takes them all up to its end, or a fault;
and the last place at which a token has been looked at. -/
def Grammar.read (g : Grammar ρ φ) (r : ρ) (searching : Bool) (tokens : Array Token)
    (after : Fault) : Except Fault (Taken ρ) × Nat :=
  let fuel := 200 * (tokens.size + 2)
  let (result, s) := (g.take fuel (.rule r)).run ⟨tokens, after, 0, 0, searching, {}⟩
  (result, s.furthest)

end Courier.Literal
