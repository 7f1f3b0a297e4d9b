import Courier.Fault

/-!
# The file tree

A tree maps routes to entries: folders, and files that carry their bytes and
the number of their node. Files of one number are links to one file: what is
written to one shows in all. A path is followed component by component from
the folder where the program stands; each component but the last has to be an
existing folder.

Key definitions: `Tree`, `Tree.entry?`, `Tree.locate`, and the operations
`read`, `makeFolder`, `create`, `append`, `link`, `move`, `unlink`.
-/

namespace Courier

/-- The way from an entry up to the root: its own name first, then those of the
folders that hold it. The root's own route is empty. -/
abbrev Route := List Text

/-- What a route leads to. -/
inductive Entry where
  | folder
  /-- A file: the number that it shares with its other links, and its bytes. -/
  | file (node : Nat) (bytes : Bytes)
  /-- A file whose bytes cannot be read. -/
  | unreadable
  deriving DecidableEq, Repr

/-- A file tree. -/
structure Tree where
  /-- The entries; of several at one route the first counts. -/
  entries : List (Route × Entry)
  /-- The folder from which relative paths are read. -/
  base : Route
  /-- What the names of temporary files are drawn from. -/
  seed : Nat
  /-- How many folders may be missing above one that is made together with them. -/
  limit : Nat
  deriving Repr

/-- The longest name in bytes. -/
def maxNameSize : Nat := 255

/-- The longest path in bytes. -/
def maxPathSize : Nat := 4095

namespace Tree

/-- What a route leads to, if to anything; the root is a folder. -/
def entry? (t : Tree) (r : Route) : Option Entry :=
  if r = [] then some .folder else t.entries.lookup r

/-- The tree with an entry set. -/
def put (t : Tree) (r : Route) (e : Entry) : Tree :=
  { t with entries := (r, e) :: t.entries.filter (·.1 != r) }

/-- The tree without what a route leads to. -/
def erase (t : Tree) (r : Route) : Tree :=
  { t with entries := t.entries.filter (·.1 != r) }

/-- The number of an entry's node; zero where it has none. -/
def nodeOf : Entry → Nat
  | .file n _ => n
  | _ => 0

/-- A node number that no file of the tree has. -/
def freshNode (t : Tree) : Nat := (t.entries.map fun e => nodeOf e.2).foldl max 0 + 1

/-- The route that components lead to from a folder; its last one need not exist. -/
def locate (t : Tree) : Route → List Text → Except SystemCode Route
  | here, [] => .ok here
  | here, c :: cs =>
    match t.entry? here with
    | none => .error .notFound
    | some .folder =>
      if c = Path.up then locate t here.tail cs
      else if maxNameSize < Utf8.size c then .error .nameTooLong
      else locate t (c :: here) cs
    | some _ => .error .notFolder

/-- The folder from which a path starts. -/
def origin (t : Tree) (p : Path) : Route := if p.slashes = 0 then t.base else []

/-- Does the path hold the null character? No operation takes such a path. -/
def hasNull (p : Path) : Bool := p.parts.any (·.contains '\x00')

/-- The route that a path leads to. -/
def route (t : Tree) (p : Path) : Except SystemCode Route :=
  if maxPathSize < Utf8.size p.text then .error .nameTooLong
  else locate t (t.origin p) p.parts

/-- The folder from which relative paths are read, as a path. -/
def basePath (t : Tree) : Path := ⟨1, t.base.reverse⟩

/-- The fault of an operation on one path. -/
def refuse (p : Path) (code : SystemCode) : Fault := .system code (some p.text) none

/-- The fault of an operation on a path and a name. -/
def refuseBoth (p : Path) (q : Text) (code : SystemCode) : Fault :=
  .system code (some p.text) (some q)

/-- What a path leads to. A path that leads nowhere has none, and so has one
with the null character; only a name that is too long is a fault. -/
def lookAt (t : Tree) (p : Path) : Except Fault (Option Entry) :=
  if hasNull p then .ok none
  else
    match t.route p with
    | .ok r => .ok (t.entry? r)
    | .error .nameTooLong => .error (refuse p .nameTooLong)
    | .error _ => .ok none

/-- Does the path lead to anything? -/
def exists? (t : Tree) (p : Path) : Except Fault Bool := (t.lookAt p).map Option.isSome

/-- Does the path lead to a folder? -/
def isFolder? (t : Tree) (p : Path) : Except Fault Bool := (t.lookAt p).map (· == some .folder)

/-- Does the path lead to a file? -/
def isFile? (t : Tree) (p : Path) : Except Fault Bool :=
  (t.lookAt p).map fun e => e.isSome && e != some .folder

/-- The bytes of the file that a path leads to. -/
def read (t : Tree) (p : Path) : Except Fault Bytes :=
  if hasNull p then .error .nullCharacter
  else
    match t.route p with
    | .error code => .error (refuse p code)
    | .ok r =>
      match t.entry? r with
      | none => .error (refuse p .notFound)
      | some .folder => .error (refuse p .isFolder)
      | some .unreadable => .error (.system .inputOutput none none)
      | some (.file _ bytes) => .ok bytes

/-- The tree with a new folder at a path; the folder above must exist. -/
def makeFolder (t : Tree) (p : Path) : Except Fault Tree :=
  if hasNull p then .error .nullCharacter
  else
    match t.route p with
    | .error code => .error (refuse p code)
    | .ok r =>
      if (t.entry? r).isSome then .error (refuse p .exists) else .ok (t.put r .folder)

/-- The tree with a new file of the given bytes at a path at which nothing is. -/
def create (t : Tree) (p : Path) (bytes : Bytes) : Except Fault Tree :=
  if hasNull p then .error .nullCharacter
  else
    match t.route p with
    | .error code => .error (refuse p code)
    | .ok r =>
      if (t.entry? r).isSome then .error (refuse p .exists)
      else .ok (t.put r (.file t.freshNode bytes))

/-- The tree in which every link to a node holds other bytes. -/
def changeNode (t : Tree) (node : Nat) (f : Bytes → Bytes) : Tree :=
  { t with entries := t.entries.map fun e =>
      match e.2 with
      | .file n bytes => if n = node then (e.1, .file n (f bytes)) else e
      | _ => e }

/-- The tree with the bytes of a file changed; a file that is missing is made from none. -/
def update (t : Tree) (p : Path) (f : Bytes → Bytes) : Except Fault Tree :=
  if hasNull p then .error .nullCharacter
  else
    match t.route p with
    | .error code => .error (refuse p code)
    | .ok r =>
      match t.entry? r with
      | none => .ok (t.put r (.file t.freshNode (f [])))
      | some .folder => .error (refuse p .isFolder)
      | some .unreadable => .error (.system .inputOutput none none)
      | some (.file n _) => .ok (t.changeNode n f)

/-- The tree with bytes added at the end of a file. -/
def append (t : Tree) (p : Path) (more : Bytes) : Except Fault Tree := t.update p (· ++ more)

/-! ### New names for a file

A second name for a file is given as a text that need not be the text of a path: it may
hold the component `.`, and slashes may end it. -/

/-- Where a name would be put. -/
inductive Place where
  /-- A name in a folder, with or without a slash after it. -/
  | named (folder : Route) (name : Text) (slash : Bool)
  /-- Nothing but slashes, or a last component that is a dot or two. -/
  | unnamed
  deriving DecidableEq, Repr

/-- The route that components, of which some may be dots, lead to from a folder. All of
them have to be folders. -/
def walk (t : Tree) (here : Route) (components : List Text) : Except SystemCode Route :=
  match locate t here (components.filter (· != ['.'])) with
  | .error code => .error code
  | .ok r =>
    match t.entry? r with
    | none => .error .notFound
    | some .folder => .ok r
    | some _ => .error .notFolder

/-- The place that a text names. -/
def place (t : Tree) (raw : Text) : Except SystemCode Place :=
  let components := (Text.splitOn '/' raw).filter (· != [])
  if raw = [] then .error .notFound
  else if maxPathSize < Utf8.size raw then .error .nameTooLong
  else
    let start := if raw.head? = some '/' then [] else t.base
    match t.walk start components.dropLast, components.getLast? with
    | .error code, _ => .error code
    | .ok folder, some name =>
      if name = ['.'] || name = Path.up then .ok .unnamed
      else .ok (.named folder name (raw.getLast? == some '/'))
    | .ok _, none => .ok .unnamed

/-- The entry of a name in a folder. -/
def entryIn (t : Tree) (folder : Route) (name : Text) : Except SystemCode (Option Entry) :=
  if maxNameSize < Utf8.size name then .error .nameTooLong else .ok (t.entry? (name :: folder))

/-- The file at a route under a second name, at which nothing may be. -/
def linkAt (t : Tree) (e : Entry) : Place → Except SystemCode Tree
  | .unnamed => .error .exists
  | .named folder name slash => do
    match ← t.entryIn folder name with
    | some _ => throw .exists
    | none => if slash then throw .notFound else return t.put (name :: folder) e

/-- The tree with a second link, of the name `q`, to the file at `p`. -/
def link (t : Tree) (p : Path) (q : Text) : Except Fault Tree :=
  if hasNull p || q.contains '\x00' then .error .nullCharacter
  else
    let result : Except SystemCode Tree := do
      match t.entry? (← t.route p) with
      | none => throw .notFound
      | some e => t.linkAt e (← t.place q)
    result.mapError (refuseBoth p q)

/-- The tree with what is at a route moved to a place, over a file there. A folder that
holds what is moved counts as one that is not empty. -/
def moveTo (t : Tree) (r : Route) : Place → Except SystemCode Tree
  | .unnamed => .error .busy
  | .named folder name slash => do
    let s := name :: folder
    match t.entry? r with
    | none => throw .notFound
    | some e =>
      let target ← t.entryIn folder name
      if slash then throw .notFolder
      else if s.isSuffixOf r && s != r then throw .notEmpty
      else if target = some .folder then throw .isFolder
      else if target.any fun other => nodeOf other = nodeOf e && nodeOf e != 0 then return t
      else return (t.erase r).put s e

/-- The tree with the file at `p` moved to the name `q`, in place of a file there. -/
def move (t : Tree) (p : Path) (q : Text) : Except Fault Tree :=
  if hasNull p || q.contains '\x00' then .error .nullCharacter
  else
    let result : Except SystemCode Tree := do t.moveTo (← t.route p) (← t.place q)
    result.mapError (refuseBoth p q)

/-- The tree without the file at a path. -/
def unlink (t : Tree) (p : Path) : Except Fault Tree :=
  if hasNull p then .error .nullCharacter
  else
    match t.route p with
    | .error code => .error (refuse p code)
    | .ok r =>
      match t.entry? r with
      | none => .error (refuse p .notFound)
      | some .folder => .error (refuse p .isFolder)
      | some _ => .ok (t.erase r)

/-- The tree without the entry at a path and all that it holds. -/
def remove (t : Tree) (p : Path) : Except Fault Tree :=
  match t.route p with
  | .error code => .error (refuse p code)
  | .ok r => .ok { t with entries := t.entries.filter fun e => !r.isSuffixOf e.1 }

/-- A change of the tree as an action: a fault leaves the tree as it was. -/
def change (op : Tree → Except Fault Tree) : Act Tree Unit := fun t =>
  match op t with
  | .ok t' => (.ok (), t')
  | .error f => (.error f, t)

end Tree
end Courier
