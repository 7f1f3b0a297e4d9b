import Courier.Console.Literal.Peg
import Courier.Console.Literal.Strings

/-!
# The grammar of expressions

An expression is made of names, numbers and strings by operators, calls,
brackets and runs over values. The grammar has a rule for each form, and
findings for the slips that are told by name. Brackets that index are not in
it, for no tag can hold them.

Key definitions: `Rule`, `Slip`, `expressions`.
-/

namespace Courier.Literal

/-- The forms of expressions and of their parts. -/
inductive Rule where
  | whole | tuple | expression | plain | lambda | parameters | parameter | yielded
  | values | value | member | members | assignment | due
  | disjunction | conjunction | inversion | comparison | arithmetic | factor | power
  | awaited | primary | atom | strings
  | group | tupled | run | set | table | entries | entry | pair | runOfSet | runOfTable
  | clauses | clause | targets | target
  | arguments | argument | listed | named | namedOrStarred | namedOrDoublyStarred | starred
  deriving DecidableEq, Hashable, Repr

/-- The slips that are told by name. -/
inductive Slip where
  | expression | call | due | group | run | runOfTable | entries | entry | clause | arguments
  | argument
  deriving DecidableEq, Repr

namespace Expression

/-- A pattern of the grammar. -/
abbrev P := Pattern Rule Slip

/-- The parts of an expression. -/
abbrev Parts := List (Tree Rule)

open Pattern

/-- One of the signs or keywords of a text, which stand between spaces. -/
def sign (texts : String) : P := .sign ((Text.words texts.toList).map String.ofList)

/-- A token that is a name. -/
def name : P := .kind .name

/-- Patterns of one kind with commas between them. -/
def listed (p : P) : P := .all [p, .many (.all [sign ",", p])]

/-- Patterns of one kind with commas between them, and maybe one more comma. -/
def ended (p : P) : P := .all [listed p, .maybe (sign ",")]

/-- An operand and operators with more operands. -/
def operated (operand operator : P) : P := .all [operand, .many (.all [operator, operand])]

/-- An expression that no name is given to. -/
def unnamed : P := .choice [.rule .assignment, .all [.rule .expression, .absent (sign ":=")]]

/-- The forms of an expression. -/
def forms : List P :=
  [.all [.rule .disjunction, sign "if", .rule .disjunction, sign "else", .rule .expression],
    .rule .disjunction, .rule .lambda]

/-- What takes a part of a value, or calls it. -/
def reach : P :=
  .choice [.all [sign ".", name], .rule .run, .all [sign "(", .maybe (.rule .arguments), sign ")"]]

/-- The start of a clause that runs over values. -/
def clauseHead : P := .all [.maybe (sign "async"), sign "for"]

/-- The pattern of each rule. -/
def pattern : Rule → P
  | .whole => .all [.rule .tuple, .many (.kind .lineEnd), .ahead (.kind .finish)]
  | .tuple => ended (.rule .expression)
  | .expression => .choice ([.finding .expression, .finding .call] ++ forms)
  | .plain => .choice forms
  | .lambda => .all [sign "lambda", .maybe (.rule .parameters), sign ":", .rule .expression]
  | .parameters => ended (.rule .parameter)
  | .parameter =>
    .choice [.all [sign "*", .maybe name], .all [sign "**", name], sign "/",
      .all [name, .maybe (.all [sign "=", .rule .expression])]]
  | .yielded =>
    .choice [.all [sign "yield", sign "from", .rule .expression],
      .all [sign "yield", .maybe (.rule .values)]]
  | .values => ended (.rule .value)
  | .value => .choice [.all [sign "*", .rule .arithmetic], .rule .expression]
  | .members => ended (.rule .member)
  | .member => .choice [.all [sign "*", .rule .arithmetic], .rule .due]
  | .assignment => .all [name, sign ":=", .rule .expression]
  | .due =>
    .choice [.rule .assignment, .finding .due, .all [.rule .expression, .absent (sign ":=")]]
  | .disjunction => operated (.rule .conjunction) (sign "or")
  | .conjunction => operated (.rule .inversion) (sign "and")
  | .inversion => .choice [.all [sign "not", .rule .inversion], .rule .comparison]
  | .comparison =>
    operated (.rule .arithmetic) (.choice [sign "== != <= < >= >", .all [sign "not", sign "in"],
      sign "in", .all [sign "is", sign "not"], sign "is"])
  | .arithmetic => operated (.rule .factor) (sign "| ^ & << >> + - * / // % @")
  | .factor => .choice [.all [sign "+ - ~", .rule .factor], .rule .power]
  | .power => .choice [.all [.rule .awaited, sign "**", .rule .factor], .rule .awaited]
  | .awaited => .choice [.all [sign "await", .rule .primary], .rule .primary]
  | .primary => .all [.rule .atom, .many reach]
  | .atom =>
    .choice [name, sign "True False None", .rule .strings, .kind .number,
      .all [.ahead (sign "("), .choice [.rule .tupled, .rule .group, .rule .run]],
      .all [.ahead (sign "\x7b"),
        .choice [.rule .table, .rule .set, .rule .runOfTable, .rule .runOfSet]],
      sign "..."]
  | .strings => .all [.kind .string, .many (.kind .string)]
  | .group =>
    .choice [.all [sign "(", .choice [.rule .yielded, .rule .due], sign ")"], .finding .group]
  | .tupled =>
    .all [sign "(", .maybe (.all [.rule .member, sign ",", .maybe (.rule .members)]), sign ")"]
  | .run => .choice [.all [sign "(", unnamed, .rule .clauses, sign ")"], .finding .run]
  | .set => .all [sign "\x7b", .rule .members, sign "\x7d"]
  | .table =>
    .choice [.all [sign "\x7b", .maybe (.rule .entries), sign "\x7d"],
      .all [sign "\x7b", .finding .entries]]
  | .entries => ended (.rule .entry)
  | .entry => .choice [.all [sign "**", .rule .arithmetic], .rule .pair]
  | .pair => .all [.rule .expression, sign ":", .rule .expression]
  | .runOfSet =>
    .choice [.all [sign "\x7b", .rule .due, .rule .clauses, sign "\x7d"], .finding .run]
  | .runOfTable =>
    .choice [.all [sign "\x7b", .rule .pair, .rule .clauses, sign "\x7d"], .finding .runOfTable]
  | .clauses => .all [.rule .clause, .many (.rule .clause)]
  | .clause =>
    .choice [.all [clauseHead, .rule .targets, sign "in", .rule .disjunction,
        .many (.all [sign "if", .rule .disjunction])],
      .all [.absent (.all [clauseHead, .rule .targets, sign "in"]), .finding .clause]]
  | .targets => ended (.rule .target)
  | .target =>
    .choice [.all [sign "*", .absent (sign "*"), .rule .target],
      .all [name, .ahead (sign "in , ) =")],
      .all [.rule .atom, reach, .many reach, .ahead (sign "in , ) =")],
      .all [sign "(", .maybe (.rule .targets), sign ")"]]
  | .arguments =>
    .choice [.all [.rule .listed, .maybe (sign ","), .ahead (sign ")")], .finding .arguments]
  | .argument => .choice [.rule .starred, .all [unnamed, .absent (sign "=")]]
  | .listed =>
    .choice [.all [listed (.rule .argument), .maybe (.all [sign ",", .rule .named])],
      .rule .named]
  | .named =>
    .choice [.all [listed (.rule .namedOrStarred), sign ",", listed (.rule .namedOrDoublyStarred)],
      listed (.rule .namedOrStarred), listed (.rule .namedOrDoublyStarred)]
  | .namedOrStarred =>
    .choice [.finding .argument, .all [name, sign "=", .rule .expression], .rule .starred]
  | .namedOrDoublyStarred =>
    .choice [.finding .argument, .all [name, sign "=", .rule .expression],
      .all [sign "**", .rule .expression]]
  | .starred => .choice [.all [sign "*", .rule .expression], .all [sign "*", .fault .bareStar]]

/-- The rules whose takings are kept: those that stand at the front of many others. -/
def kept : Rule → Bool
  | .expression | .value | .disjunction | .conjunction | .inversion | .arithmetic | .factor
  | .awaited | .primary | .strings | .arguments => true
  | _ => false

/-- The tokens among some parts. -/
def tokensOf (parts : Parts) : List Token :=
  parts.filterMap fun
    | .leaf t => some t
    | .node .. => none

/-- What is wrong with what a rule takes. -/
def refuses : Rule → Parts → Option Fault
  | .strings, parts => Strings.fault? (tokensOf parts)
  | _, _ => none

/-! ### What expressions are called -/

/-- What a token is called as an expression. -/
def calledToken (t : Token) : String :=
  match t.kind with
  | .name => "name"
  | .number | .string => "literal"
  | _ => if t.text = "...".toList then "ellipsis" else String.ofList t.text

/-- What an expression is called. -/
def called : Tree Rule → String
  | .leaf t => calledToken t
  | .node .strings parts =>
    if (tokensOf parts).any Strings.isFormatted then "f-string expression" else "literal"
  | .node .tupled _ => "tuple"
  | .node .run _ => "generator expression"
  | .node .set _ => "set display"
  | .node .table _ => "dict literal"
  | .node .runOfSet _ => "set comprehension"
  | .node .runOfTable _ => "dict comprehension"
  | .node .lambda _ => "lambda"
  | .node .yielded _ => "yield expression"
  | .node .assignment _ => "named expression"
  | .node .group parts =>
    match parts with
    | [_, inner, _] => called inner
    | _ => "expression"
  | .node _ [part] => called part
  | .node .comparison _ => "comparison"
  | .node .awaited _ => "await expression"
  | .node .primary parts =>
    match parts.getLast? with
    | some (.leaf t) => if t.kind = .name then "attribute" else "function call"
    | _ => "function call"
  | .node .expression _ | .node .plain _ => "conditional expression"
  | .node .tuple _ | .node .values _ => "tuple"
  | .node .value _ | .node .member _ => "starred"
  | .node _ _ => "expression"

/-- What a value is called that is to be set and cannot be. -/
def unsettable? : Tree Rule → Option String
  | .leaf t => if t.kind = .name then none else some (calledToken t)
  | .node .group [_, inner, _] => unsettable? inner
  | .node .tupled parts | .node .members parts | .node .values parts => firstOf parts
  | .node .value [_, inner] | .node .member [_, inner] => unsettable? inner
  | .node .comparison (first :: .leaf operator :: _) =>
    if operator.text = "in".toList then unsettable? first else some "comparison"
  | .node .primary [part] => unsettable? part
  | .node .primary parts =>
    match parts.getLast? with
    | some (.leaf t) => if t.kind = .name then none else some "function call"
    | _ => some "function call"
  | .node .strings parts => some (called (.node .strings parts))
  | .node .set parts => some (called (.node .set parts))
  | .node .table parts => some (called (.node .table parts))
  | .node _ [part] => unsettable? part
  | .node r parts => some (called (.node r parts))
where
  /-- The first of some parts that cannot be set; signs between them do not count. -/
  firstOf : Parts → Option String
    | [] => none
    | .leaf t :: rest =>
      if t.kind = .sign then firstOf rest else (unsettable? (.leaf t)).or (firstOf rest)
    | .node r ps :: rest => (unsettable? (.node r ps)).or (firstOf rest)

/-- The arguments in what the rule of listed arguments takes. -/
def argumentsOf : Tree Rule → Parts
  | .leaf _ => []
  | .node .argument parts => [.node .argument parts]
  | .node .namedOrStarred parts => [.node .namedOrStarred parts]
  | .node .namedOrDoublyStarred parts => [.node .namedOrDoublyStarred parts]
  | .node _ parts => ofAll parts
where
  ofAll : Parts → Parts
    | [] => []
    | part :: rest => argumentsOf part ++ ofAll rest

/-- Has the argument a name, or two stars? -/
def isNamed : Tree Rule → Bool
  | .node .namedOrStarred (.leaf _ :: _) | .node .namedOrDoublyStarred _ => true
  | _ => false

/-- Has the argument two stars? -/
def isDoublyStarred : Tree Rule → Bool
  | .node .namedOrDoublyStarred (.leaf t :: _) => t.text = "**".toList
  | _ => false

/-! ### Slips -/

/-- The name of an expression that is only a name. -/
def onlyName? : Tree Rule → Option Text
  | .leaf t => if t.kind = .name then some t.text else none
  | .node .group [_, inner, _] => onlyName? inner
  | .node _ [part] => onlyName? part
  | .node _ _ => none

/-- Does the name ask for parentheses? -/
def asksForCall (name : Text) : Bool := name = "print".toList || name = "exec".toList

/-- A fault, whatever has been taken. -/
def always (f : Fault) : Parts → Token → Option Fault := fun _ _ => some f

/-- A fault that tells what the first part is called. -/
def ofFirst (f : String → Fault) : Parts → Token → Option Fault
  | part :: _, _ => some (f (called part))
  | [], _ => none

/-- Two expressions follow each other inside of brackets. -/
def missingComma : Parts → Token → Option Fault
  | part :: _, last =>
    if ((onlyName? part).map asksForCall).getD false || last.depth = 0 then none
    else some .missingComma
  | [], _ => none

/-- A name that asks for parentheses stands before an expression. -/
def missingParentheses : Parts → Token → Option Fault
  | .leaf t :: _, _ => if asksForCall t.text then some (.missingParentheses t.text) else none
  | _, _ => none

/-- An argument without a name follows one with a name. -/
def afterNamed : Parts → Token → Option Fault
  | part :: _, _ =>
    match (argumentsOf part).filter isNamed |>.getLast? with
    | some last => some (if isDoublyStarred last then .afterDoubleStar else .afterNamed)
    | none => some .afterNamed
  | [], _ => none

/-- A run over values stands beside other arguments. -/
def runBesideArguments : Parts → Token → Option Fault
  | part :: _, _ =>
    if ((argumentsOf part).filter (!isNamed ·)).length ≤ 1 then none else some .runBesideArguments
  | [], _ => none

/-- What a run over values sets cannot be set. -/
def unsettableTarget (parts : Parts) (_ : Token) : Option Fault :=
  (parts.getLast?.bind unsettable?).map .unsettable

/-- The suspicions of each slip. -/
def suspicions : Slip → List (P × (Parts → Token → Option Fault))
  | .expression =>
    [(.all [.absent (.choice [.all [name, .kind .string], .named ["match", "case", "_"]]),
        .rule .disjunction, .bare (.rule .plain)], missingComma),
      (.all [.rule .disjunction, sign "if", .rule .disjunction, .absent (sign "else :")],
        always .missingElse)]
  | .call => [(.all [name, .absent (sign "("), .rule .values], missingParentheses)]
  | .due =>
    [(.all [.rule .expression, sign ":=", .rule .expression], ofFirst .namedExpression),
      (.all [name, sign "=", .rule .arithmetic, .absent (sign "= :=")], always .setName),
      (.all [.absent (.choice [.rule .tupled, .rule .run, sign "True None False"]),
        .rule .arithmetic, sign "=", .rule .arithmetic, .absent (sign "= :=")],
        ofFirst .setExpression)]
  | .group =>
    [(.all [sign "(", .rule .starred, sign ")"], always .starredGroup),
      (.all [sign "(", sign "**", .rule .expression, sign ")"], always .doublyStarredGroup)]
  | .run =>
    [(.all [sign "( \x7b", .rule .starred, .rule .clauses], always .starredRun),
      (.all [sign "\x7b", .rule .member, sign ",", .rule .members, .rule .clauses],
        always .bareRun),
      (.all [sign "\x7b", .rule .member, sign ",", .rule .clauses], always .bareRun)]
  | .runOfTable =>
    [(.all [sign "\x7b", sign "**", .rule .arithmetic, .rule .clauses, sign "\x7d"],
      always .doublyStarredRun)]
  | .entries =>
    [(.all [listed (.rule .entry), sign ",", .finding .entry], always .misplaced),
      (.all [.rule .expression, sign ":", sign "*", .rule .arithmetic], always .starredValue),
      (.all [.rule .expression, sign ":", .ahead (sign "\x7d ,")], always .missingValue)]
  | .entry =>
    [(.all [.rule .expression, .absent (sign ":")], always .missingColon),
      (.all [.rule .expression, sign ":", sign "*", .rule .arithmetic], always .starredValue),
      (.all [.rule .expression, sign ":", .ahead (sign "\x7d ,")], always .missingValue)]
  | .clause => [(.all [clauseHead, .rule .values], unsettableTarget)]
  | .arguments =>
    [(.all [.rule .listed, sign ",", sign "*"], always .starAfterDoubleStar),
      (.all [.rule .expression, .rule .clauses, sign ",",
        .maybe (.choice [.rule .listed, .all [.rule .expression, .rule .clauses]])],
        always .runBesideArguments),
      (.all [name, sign "=", .rule .expression, .rule .clauses], always .setName),
      (.all [.rule .listed, .rule .clauses], runBesideArguments),
      (.all [.rule .listed, sign ",", .rule .expression, .rule .clauses],
        always .runBesideArguments),
      (.all [.rule .listed, sign ",", .rule .listed], afterNamed)]
  | .argument =>
    [(.all [sign "True False None", sign "="], ofFirst .unsettable),
      (.all [name, sign "=", .rule .expression, .rule .clauses], always .setName),
      (.all [.absent (.all [name, sign "="]), .rule .expression, sign "="], always .setArgument)]

end Expression

/-- The grammar of expressions. -/
def expressions : Grammar Rule Slip where
  pattern := Expression.pattern
  kept := Expression.kept
  refuses := Expression.refuses
  suspicions := Expression.suspicions

end Courier.Literal
