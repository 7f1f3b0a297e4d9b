import Courier.Command.Plan

/-!
# What a command may look at

A command looks at a few places only: the file of variables, the chosen files,
and the folder where the archive is to be saved. These places, and the folders
on the way to them, are all that has to be known of the system's file tree
before a command is run; what it adds is found by comparing the trees.

Key definitions: `Tree.bare`, `Tree.stations`, `Options.variablePlace`, `Options.inputPlaces`,
`Options.outputPlace`, `Tree.additions`.
-/

namespace Courier

namespace Tree

/-- A route with all routes above it, from the top down, without the root. -/
def routesTo : Route → List Route
  | [] => []
  | c :: r => routesTo r ++ [c :: r]

/-- The tree that holds nothing but the folder from which paths are read. -/
def bare (base : Route) (seed limit : Nat) : Tree :=
  ⟨(routesTo base).map (·, .folder), base, seed, limit⟩

/-- The routes that components pass from a folder on, that of the folder left out. -/
def routesFrom : Route → List Text → List Route
  | _, [] => []
  | here, c :: cs =>
    let next := if c = Path.up then here.tail else c :: here
    next :: routesFrom next cs

/-- The routes that a path passes. -/
def stations (t : Tree) (p : Path) : List Route := routesFrom (t.origin p) p.parts

/-- The entries of the later tree that the earlier one has not, folders before what they hold. -/
def additions (earlier later : Tree) : List (Route × Entry) :=
  (later.entries.filter fun e => (earlier.entry? e.1).isNone).mergeSort fun a b =>
    a.1.length ≤ b.1.length

end Tree

namespace Options

/-- Where the file of variables is looked for. -/
def variablePlace (o : Options) : Path := o.envFile.getD EnvFile.standardPath

/-- Where the chosen files are looked for. -/
def inputPlaces (o : Options) (homeOf : Text → Option Text) : List Path :=
  (o.schema.toList ++ o.overrides.toList).filterMap (Path.expandHome? homeOf)

/-- The folder where the archive is to be saved. -/
def outputPlace (o : Options) (homeOf : Text → Option Text) (env : Environment) : Option Path :=
  (o.settings env).toOption.bind fun s => Path.expandHome? homeOf s.outputFolder

end Options
end Courier
