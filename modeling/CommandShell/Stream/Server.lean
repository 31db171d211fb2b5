import CommandShell.Stream.Connection

/-!
# Servers

A server has one evaluator and any number of connections, each with a context of its own that
starts as a copy of the same one. Connections are served side by side: a step receives bytes on
one of them or handles one frame that waits there. How bytes travel is not modelled; a network
only tells whether clients reach the server.
-/

namespace CommandShell

variable {Ctx : Type}

/-- Whether clients reach the server. -/
inductive Network where
  | reachable
  | unreachable
  deriving DecidableEq, Repr

/-- A server, with its connections in the order in which they were opened. -/
structure Server (Ctx : Type) where
  world : World Ctx
  evaluator : Nat := 0
  context : Ctx
  peer : String
  connections : List (Nat × Connection Ctx) := []

namespace Server

/-- The connection of a client. -/
def connection? (s : Server Ctx) (client : Nat) : Option (Connection Ctx) :=
  s.connections.lookup client

/-- Replaces the connection of a client. -/
def setConnection (s : Server Ctx) (client : Nat) (c : Connection Ctx) : Server Ctx :=
  { s with connections := s.connections.map fun (n, old) => (n, if n = client then c else old) }

/-- Opens a connection for a client. -/
def accept (s : Server Ctx) (client : Nat) : Server Ctx :=
  { s with
    connections := s.connections ++ [(client, .fresh s.world s.evaluator s.peer s.context)]
    world := s.world.record (.connectionOpened s.peer) }

/-- What can happen to a server with open connections. -/
inductive Action where
  /-- Bytes arrive from a client. -/
  | receive (client : Nat) (bytes : List UInt8)
  /-- The first frame that waits for a client is handled. -/
  | handle (client : Nat)
  deriving DecidableEq, Repr

/-- One step. Bytes on a closed connection are lost. -/
def step (s : Server Ctx) : Action → Server Ctx
  | .receive client bytes =>
    match s.connection? client with
    | some c => if c.isOpen then s.setConnection client (c.receive bytes) else s
    | none => s
  | .handle client =>
    match s.connection? client with
    | some c =>
      let (c, world) := c.handleNext s.evaluator s.world
      { s with world }.setConnection client c
    | none => s

/-- Steps in order. -/
def run (s : Server Ctx) (actions : List Action) : Server Ctx := actions.foldl step s

/-- Takes bytes from a client and handles every frame that is complete. -/
def process (s : Server Ctx) (client : Nat) (bytes : List UInt8) : Server Ctx :=
  match s.connection? client with
  | some c =>
    if c.isOpen then
      let (c, world) := c.process s.evaluator bytes s.world
      { s with world }.setConnection client c
    else s
  | none => s

/-- The bytes of a text. -/
def bytesOf (text : String) : List UInt8 := text.toUTF8.toList

/-! ### Clients -/

/-- The lines of characters, each with the newline that ends it; `line` holds the characters of
the line that is being read, last first. -/
def splitLines (line : List Char) : List Char → List String
  | [] => if line.isEmpty then [] else [String.ofList line.reverse]
  | c :: cs =>
    if c = '\n' then String.ofList (c :: line).reverse :: splitLines [] cs
    else splitLines (c :: line) cs

/-- The lines that were written to a client. -/
def linesTo (s : Server Ctx) (client : Nat) : List String :=
  match s.connection? client with
  | some c => splitLines [] (String.join c.writes.toList).toList
  | none => []

/-- A message of a client: who sends which text, and how many lines of response it reads. -/
structure Message where
  client : Nat
  text : String
  count : Nat
  deriving DecidableEq, Repr

/-- How many lines a client has read. -/
def linesRead (counts : List (Nat × Nat)) (client : Nat) : Nat := (counts.lookup client).getD 0

/-- Sends a message, over a connection that is opened if the client has none, and reads the
response. Beyond the last line the client reads empty ones. -/
def exchange (n : Network) (s : Server Ctx) (counts : List (Nat × Nat)) (m : Message) :
    Except Fault (List String × Server Ctx) := do
  let s ← if (s.connection? m.client).isSome then pure s
    else match n with
      | .reachable => pure (s.accept m.client)
      | .unreachable => throw .unreachable
  let s := s.process m.client (bytesOf m.text)
  let lines := ((s.linesTo m.client).drop (linesRead counts m.client)).take m.count
  return (lines ++ List.replicate (m.count - lines.length) "", s)

/-- Exchanges messages in order; gives the lines read for each. -/
def exchangeAll (n : Network) (s : Server Ctx) (counts : List (Nat × Nat)) :
    List Message → Except Fault (List (List String))
  | [] => .ok []
  | m :: ms => do
    let (lines, s) ← exchange n s counts m
    let read := linesRead counts m.client + m.count
    let rest ← exchangeAll n s ((m.client, read) :: counts) ms
    return lines :: rest

/-- Serves a client that sends a text, ends its side of the connection and reads to the end. -/
def serveClient (n : Network) (s : Server Ctx) (text : String) :
    Except Fault (String × Server Ctx) :=
  match n with
  | .unreachable => .error .unreachable
  | .reachable =>
    let c := Connection.fresh s.world s.evaluator s.peer s.context
    let (c, world, _) := c.serve s.evaluator Shell.chunkSize [.data (bytesOf text)] s.world
    .ok (String.join c.writes.toList, { s with world })

/-- Serves clients one after the other. -/
def serveClients (n : Network) (s : Server Ctx) :
    List String → Except Fault (List String) × Server Ctx
  | [] => (.ok [], s)
  | text :: texts =>
    match serveClient n s text with
    | .error f => (.error f, s)
    | .ok (reply, s) =>
      match serveClients n s texts with
      | (.error f, s) => (.error f, s)
      | (.ok replies, s) => (.ok (reply :: replies), s)

end Server

end CommandShell
