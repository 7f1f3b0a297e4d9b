import Courier.Console.Literal.Grammar

/-!
# Literals

A literal is an expression that has its value from itself alone: a number, a
string, a word such as `None`, or a tuple, a set or a table of literals. What
is to be told apart by its contents, such as a member of a set, holds no set
and no table. A text that cannot be read is searched for the cause: a fault of
its tokens counts before a slip, and a slip before a token that is misplaced.

Key definitions: `Literal.tree?`, `Literal.value?`.
-/

namespace Courier.Literal

/-- A text with each line ended in the same way. -/
def sameLineEnds : Text → Text
  | '\r' :: '\n' :: rest => '\n' :: sameLineEnds rest
  | '\r' :: rest => '\n' :: sameLineEnds rest
  | c :: rest => c :: sameLineEnds rest
  | [] => []

/-- The fault of a text, given what its tokens led to, the last token looked at, and why
the scan of the tokens stopped. -/
def faultOf (found : Fault) (last : Option Token) (stop : Option Stop) : Fault :=
  if (last.map (·.kind)) = some .indent && found = .misplaced then .indented
  else
    match stop with
    | none => found
    | some s =>
      if !s.late then s.fault
      else
        match s.opened, last with
        | some (bracket, line), some t => if line < t.line then .unclosed bracket else found
        | _, _ => found

/-- A text as an expression. -/
def tree? (t : Text) : Except Fault (Tree Rule) :=
  if t.contains '\x00' then .error .nullCharacter
  else
    let text := (sameLineEnds t).dropWhile fun c => c = ' ' ∨ c = '\t'
    let (tokens, stop) := scan text
    let tokens := tokens.toArray
    let after := (stop.map (·.fault)).getD .misplaced
    let reading (searching : Bool) := expressions.read .whole searching tokens after
    let (first, reached) := reading false
    match first with
    | .error f => .error (faultOf f tokens[reached]? stop)
    | .ok (some (tree :: _)) => .ok tree
    | .ok _ =>
      let (second, reached') := reading true
      let found := match second with
        | .error f => f
        | .ok _ => .misplaced
      .error (faultOf found tokens[max reached reached']? stop)

/-! ### Values -/

/-- How a number or a string is made of a literal, as far as it matters. -/
inductive Form where
  /-- A number that is not imaginary. -/
  | real
  | imaginary
  /-- Any other value that is told apart by its contents. -/
  | firm
  /-- A value that is not, and what it is called. -/
  | loose (kind : String)
  deriving DecidableEq, Repr

/-- The form of several values together. -/
def Form.join : Form → Form → Form
  | .loose kind, _ => .loose kind
  | _, .loose kind => .loose kind
  | _, _ => .firm

/-- The form of a token. -/
def Form.ofToken (t : Token) : Except Misfit Form :=
  match t.kind with
  | .number =>
    let lower := t.text.map Char.toLower
    .ok (if lower.getLast? = some 'j' then .imaginary else .real)
  | .string => .ok .firm
  | .keyword => .ok .firm
  | .sign => if t.text = "...".toList then .ok .firm else .error .noLiteral
  | _ => .error .noLiteral

/-- The form that a member of a set or a key must have. -/
def Form.member : Form → Except Misfit Unit
  | .loose kind => .error (.unhashable kind)
  | _ => .ok ()

/-- The form of a number after a sign. -/
def Form.signed (operator : Token) (f : Form) : Except Misfit Form :=
  if (f = .real || f = .imaginary) && operator.text ≠ ['~'] then .ok f else .error .noLiteral

mutual

/-- The form of the value of an expression. -/
def form : Tree Rule → Except Misfit Form
  | .leaf t => Form.ofToken t
  | .node .whole (tree :: _) => form tree
  | .node .strings parts =>
    if (Expression.tokensOf parts).any Strings.isFormatted then .error .noLiteral else .ok .firm
  | .node .group [_, inner, _] => form inner
  | .node .tuple [part] => form part
  | .node .tuple parts | .node .tupled parts => tupleForm parts
  | .node .set [_, .node .members parts, _] => do
    memberForms parts
    return .loose "set"
  | .node .table [_, .node .entries parts, _] => do
    entryForms parts
    return .loose "dict"
  | .node .table _ => return .loose "dict"
  | .node .factor [.leaf operator, .node .factor [.node .power [inner]]] => do
    (← form inner).signed operator
  | .node .arithmetic [left, .leaf operator, right] => do
    let l ← form left
    let r ← form right
    if l = .real ∧ r = .imaginary ∧ (operator.text = ['+'] ∨ operator.text = ['-']) then
      return .imaginary
    else throw .noLiteral
  | .node .primary [.node .atom [.leaf name], .leaf _, .leaf _] =>
    if name.text = "set".toList then .ok (.loose "set") else .error .noLiteral
  | .node .yielded _ => .error .noLiteral
  | .node _ [part] => form part
  | .node _ _ => .error .noLiteral

/-- The form of a tuple of the parts between some signs. -/
def tupleForm : List (Tree Rule) → Except Misfit Form
  | [] => .ok .firm
  | .leaf _ :: rest => tupleForm rest
  | .node .members parts :: rest => do
    return (← tupleForm parts).join (← tupleForm rest)
  | part :: rest => do
    return (← form part).join (← tupleForm rest)

/-- Are the members of a set literals that are told apart by their contents? -/
def memberForms : List (Tree Rule) → Except Misfit Unit
  | [] => .ok ()
  | .leaf _ :: rest => memberForms rest
  | part :: rest => do
    (← form part).member
    memberForms rest

/-- Are the keys and values of a table literals, and the keys told apart by their contents? -/
def entryForms : List (Tree Rule) → Except Misfit Unit
  | [] => .ok ()
  | .node .entry [.node .pair [key, _, value]] :: rest => do
    let k ← form key
    let _ ← form value
    k.member
    entryForms rest
  | .node .entry _ :: _ => .error .spread
  | _ :: rest => entryForms rest

end

/-- Has an expression a value? -/
def value? (tree : Tree Rule) : Except Misfit Unit := (form tree).map fun _ => ()

end Courier.Literal
