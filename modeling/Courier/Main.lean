import Courier.Command
import Courier.Command.Reach
import Courier.Http.Recording
import Courier.Http.Wire
import Courier.Path.Home
import Std.Async.DNS
import Std.Async.System
import Std.Async.TCP
import Std.Async.Timer

/-!
# The program

The program looks at the places that the command may look at, runs the command
on what it saw, and adds to the file system what the command added to the tree.
When the command sends a request, its output so far is shown, the request is
sent over the network, and the command is run again with one answer more.

Only connections without encryption are made.
-/

namespace Courier.Program

open Std.Async (Async Selectable Selector)

/-- What comes of an action, its failure included. -/
def attempt {α : Type} (action : IO α) : IO (Except IO.Error α) := do
  try return .ok (← action) catch e => return .error e

/-! ### The environment and the file system -/

/-- The variables that the command knows. -/
def knownVariables : List Text :=
  [Home.homeVariable, Settings.baseUrlVariable, Settings.outputFolderVariable,
    Settings.timeoutVariable, Window.widthVariable, Window.heightVariable, Window.kindVariable,
    Window.colourVariable, Window.nameVariable]

/-- The known variables that are set. -/
def environment : IO Environment :=
  knownVariables.filterMapM fun name => do
    return (← IO.getEnv (String.ofList name)).map fun value => (name, value.toList)

/-- The home folders of users. -/
def homes : IO (Environment → Text → Option Text) := do
  let own ← attempt Std.Async.System.getHomeDir
  let table ← attempt (IO.FS.readFile "/etc/passwd")
  let ownText := (own.toOption.map (·.toString)).getD "/"
  return Home.homeOf ownText.toList (Home.accounts (table.toOption.getD "").toList)

/-- The name by which the system knows a route. -/
def systemName (r : Route) : String := String.ofList (Path.text ⟨1, r.reverse⟩)

/-- The tree with what the system has at a route. Whatever is no regular file
cannot be read as one, and so counts as a folder. -/
def observe (t : Tree) (r : Route) : IO Tree := do
  if (t.entry? r).isSome then return t
  let name := systemName r
  match ← attempt (System.mkFilePath [name]).metadata with
  | .error _ => return t
  | .ok info =>
    if info.type != .file then return t.put r .folder
    match ← attempt (IO.FS.readBinFile name) with
    | .ok bytes => return t.put r (.file t.freshNode bytes.toList)
    | .error _ => return t.put r .unreadable

/-- The tree with what the system has on the way to a path. -/
def observePath (t : Tree) (p : Path) : IO Tree := (t.stations p).foldlM observe t

/-- The tree with the names that the folder at a path holds. -/
def observeNames (t : Tree) (p : Path) : IO Tree := do
  match t.route p with
  | .error _ => return t
  | .ok r =>
    match ← attempt (System.mkFilePath [systemName r]).readDir with
    | .error _ => return t
    | .ok names =>
      return names.foldl (fun t entry =>
        let place := entry.fileName.toList :: r
        if (t.entry? place).isSome then t else t.put place .unreadable) t

/-- Adds an entry to the file system. -/
def addEntry (r : Route) : Entry → IO Unit
  | .folder => IO.FS.createDir (systemName r)
  | .file _ bytes => do
    let handle ← IO.FS.Handle.mk (systemName r) .writeNew
    handle.write ⟨bytes.toArray⟩
  | .unreadable => return

/-! ### The network -/

/-- The fault of a request that found nobody to answer it. -/
def unanswered (words : String) : Fault := .reported (.plain "ConnectError".toList (some words.toList))

/-- How long to wait for the next bytes, in milliseconds; nothing is waited forever. -/
def patience (timeout : Option Float) : Option Nat :=
  timeout.bind fun x => if 0 < x && x < 1.0e9 then some (x * 1000).toUInt64.toNat else none

/-- The place of a service at an address. -/
def serviceAt (number : UInt16) : Std.Net.IPAddr → Std.Net.SocketAddress
  | .v4 address => .v4 ⟨address, number⟩
  | .v6 address => .v6 ⟨address, number⟩

/-- A connection to the first of several addresses that takes it. -/
def connect (number : UInt16) : List Std.Net.IPAddr → Async Std.Async.TCP.Socket.Client
  | [] => throw (IO.userError "the host has no address")
  | address :: others => do
    let socket ← Std.Async.TCP.Socket.Client.mk
    try
      socket.connect (serviceAt number address)
      return socket
    catch e => if others.isEmpty then throw e else connect number others

/-- The next bytes of a connection, or none when it was closed. -/
def receive (socket : Std.Async.TCP.Socket.Client) : Option Nat → Async (Option ByteArray)
  | none => socket.recv? 0x10000
  | some milliseconds => do
    let alarm ← Selector.sleep (.ofNat milliseconds)
    Selectable.one #[
      .case (socket.recvSelector 0x10000) fun bytes => return bytes,
      .case alarm fun _ => throw (IO.userError "the answer took too long")]

/-- All further bytes of a connection. -/
partial def receiveAll (socket : Std.Async.TCP.Socket.Client) (wait : Option Nat)
    (before : ByteArray) : Async ByteArray := do
  match ← receive socket wait with
  | none => return before
  | some bytes => receiveAll socket wait (before ++ bytes)

/-- Sends a request and waits for the bytes of its answer. -/
def exchange (r : Request) (number : UInt16) (wait : Option Nat) : Async ByteArray := do
  let addresses ← Std.Async.DNS.getAddrInfo (String.ofList r.url.host) (toString number)
  let socket ← connect number addresses.toList
  socket.send ⟨(Wire.encode r).toArray⟩
  receiveAll socket wait .empty

/-- The number of the service that an address names. -/
def serviceNumber (u : Url) : UInt16 :=
  match u.port.or (Url.usualPort? u.scheme) with
  | some n => .ofNat n.toNat
  | none => 0

/-- The answer to a request. -/
def answer (wait : Option Nat) (r : Request) : IO (Except Fault Response) := do
  if r.url.scheme != "http".toList then
    return .error (unanswered "only addresses that start with http:// can be reached")
  match ← attempt (exchange r (serviceNumber r.url) wait).block with
  | .error e => return .error (unanswered (toString e))
  | .ok bytes => return Wire.decode bytes.toList

/-! ### The run -/

/-- What a run starts from. -/
structure Start where
  arguments : List Text
  environment : Environment
  homeOf : Environment → Text → Option Text
  tree : Tree
  boundary : Text
  window : Window
  terminals : Terminals
  wait : Option Nat

/-- The run with some answers. -/
def Start.run (start : Start) (answers : List (Except Fault Response)) :
    Except Fault Nat × World Recording :=
  Command.run ⟨start.homeOf, start.boundary, .none, start.terminals, Recording.play⟩ start.arguments
    (World.start start.tree start.environment start.window (.ofAnswers answers))

/-- How many folders may be missing above one that is made together with them. -/
def mostMissing : Nat := 974

/-- The number that bytes write. -/
def numberOf (bytes : ByteArray) : Nat := bytes.toList.foldl (fun n b => 0x100 * n + b.toNat) 0

/-- The terminals of the standard streams, of which the size is not asked. -/
def terminals : IO Terminals := do
  let terminal (stream : IO.FS.Stream) : IO (Option (Nat × Nat)) := do
    return if ← stream.isTty then some (0, 0) else none
  return ⟨← terminal (← IO.getStdin), ← terminal (← IO.getStdout), ← terminal (← IO.getStderr)⟩

/-- Looks at what the command may look at. -/
def survey (arguments : List Text) (env : Environment) (window : Window) : IO Start := do
  let homeOf ← homes
  let base := Path.ofText (← IO.currentDir).toString.toList
  let seed := numberOf (← IO.getRandomBytes 16)
  let bare := Tree.bare base.parts.reverse seed mostMissing
  let mut tree ← (Tree.routesTo base.parts.reverse).foldlM observe bare
  let mut wait := none
  if let .ok options := Arguments.parse arguments then
    tree ← observePath tree options.variablePlace
    let env := (options.loadVariables tree env).2
    tree ← (options.inputPlaces (homeOf env)).foldlM observePath tree
    wait := (options.settings env).toOption.bind fun settings => patience settings.timeout
    if let some place := options.outputPlace (homeOf env) env then
      tree ← observePath tree place
      tree ← observeNames tree place
  let boundary := (← IO.getRandomBytes 16).toList.flatMap fun b => Text.hexDigits 2 b.toNat
  return ⟨arguments, env, homeOf, tree, boundary, window, ← terminals, wait⟩

/-- Prints a text. -/
def print (stream : IO.FS.Stream) (text : Text) : IO Unit := do
  stream.putStr (String.ofList text)
  stream.flush

/-- Ends the program with a fault that nothing holds back. -/
def fail (f : Fault) : IO UInt32 := do
  print (← IO.getStderr) ("ERROR: ".toList ++ (f.describe.toOption.getD []) ++ ['\n'])
  return 1

/-- Runs the command with the answers so far, of which the output up to `shown`
characters is printed already, and with at most `left` more answers. -/
def converse (start : Start) (shown : Nat) (answers : List (Except Fault Response)) :
    (left : Nat) → IO UInt32
  | 0 => return 1
  | left + 1 => do
    let (outcome, world) := start.run answers
    match world.desk.wire.pending with
    | some request =>
      print (← IO.getStdout) (world.output.drop shown)
      let received ← answer start.wait request
      converse start world.output.length (answers ++ [received]) left
    | none =>
      for (r, e) in Tree.additions start.tree world.tree do
        addEntry r e
      print (← IO.getStdout) (world.output.drop shown)
      print (← IO.getStderr) world.errors
      match outcome with
      | .ok code => return .ofNat code
      | .error f => fail f

end Courier.Program

/-- Runs the command with the arguments of the program. -/
def main (arguments : List String) : IO UInt32 := do
  let env ← Courier.Program.environment
  match Courier.Window.opened env with
  | .error f => Courier.Program.fail f
  | .ok window =>
    let start ← Courier.Program.survey (arguments.map String.toList) env window
    -- each redirection asks for one answer, and the last run for none
    Courier.Program.converse start 0 [] (Courier.Client.maxRedirects + 3)
