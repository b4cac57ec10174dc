/-
# ShardStore.Main -- the program

The program reads its arguments and its environment.  It then ends with a text, or serves
HTTP until it is interrupted: as a shard with a store of its own, or as a router that
sends the requests of the calls it gets and answers from the replies.
-/
import Std.Async.DNS
import Std.Async.Signal
import Std.Http.Server
import ShardStore.Program
import ShardStore.Router.Exchange

namespace ShardStore.Serving

set_option autoImplicit false

open Std Std.Async

/-! ## Addresses -/

/-- An IPv6 address of eight groups. -/
def ipv6 (groups : List Nat) : Net.IPv6Addr :=
  ⟨Vector.ofFn fun i : Fin 8 => (groups.getD i 0).toUInt16⟩

/-- An IPv4 address of four bytes. -/
def ipv4 (octets : List Nat) : Net.IPv4Addr :=
  ⟨Vector.ofFn fun i : Fin 4 => (octets.getD i 0).toUInt8⟩

def listenAddress : SocketAddress → Net.SocketAddress
  | .v4 octets port => .v4 ⟨ipv4 octets, port.toUInt16⟩
  | .v6 groups _ port => .v6 ⟨ipv6 groups, port.toUInt16⟩

def remoteAddress (port : Nat) : Net.IPAddr → Net.SocketAddress
  | .v4 a => .v4 ⟨a, port.toUInt16⟩
  | .v6 a => .v6 ⟨a, port.toUInt16⟩

/-! ## Messages -/

def toRequest (head : Std.Http.Request.Head) (body : ByteArray) : Http.Request where
  method := toString head.method
  target := .ofReference (toString head.uri)
  body := body.toList

def ofResponse (r : Http.Response) : Async (Std.Http.Response Std.Http.Body.Full) := do
  let status := (Std.Http.Status.ofCode none r.status.toUInt16).getD .internalServerError
  let builder := r.headers.foldl
    (fun (b : Std.Http.Response.Builder) h => (b.header? h.1 h.2).getD b)
    (Std.Http.Response.new.status status)
  builder.fromBytes ⟨r.body.toArray⟩

/-- Answers every request by a function of the library's requests and responses. -/
structure Handler where
  respond : Http.Request → Async Http.Response

instance : Std.Http.Server.Handler Handler where
  ResponseBody := Std.Http.Body.Full
  onRequest h request := do
    let body : ByteArray ← request.body.readAll
    ofResponse (← h.respond (toRequest request.line body))

/-- Serves until the program is interrupted.  Then `stop` is called, and the open
connections have some seconds to end. -/
def serveUntilInterrupt (bind : SocketAddress) (h : Handler) (stop : IO Unit) : Async Unit := do
  let server ← Std.Http.Server.serve (listenAddress bind) h { serverName := none }
  let waiter ← Signal.Waiter.mk .sigint false
  let _ ← await (← waiter.wait)
  stop
  Async.race server.shutdownAndWait (sleep 10000)

/-! ## Shards -/

def serveShard (bind : SocketAddress) (s : Shard) : Async Unit := do
  let state ← IO.mkRef s
  serveUntilInterrupt bind ⟨fun r => state.modifyGet (·.respond r)⟩ (state.modify Shard.stop)

/-! ## Routers -/

/-- Reads until the connection ends or breaks. -/
partial def receive (socket : TCP.Socket.Client) (read : ByteArray) : Async ByteArray := do
  let next ← try socket.recv? 65536 catch _ => pure none
  match next with
  | some bytes => receive socket (read ++ bytes)
  | none => return read

/-- Sends one request to a node. -/
def exchange (n : Node) (r : Http.Request) : Async Router.Reply := do
  let some (host, port) := Router.endpoint? n.address | return .nothing
  try
    let some address := (← DNS.getAddrInfo host "")[0]? | return .nothing
    let socket ← TCP.Socket.Client.mk
    socket.connect (remoteAddress port address)
    socket.send ⟨(Router.requestBytes host r).toArray⟩
    return .ofBytes (← receive socket .empty).toList
  catch _ => return .nothing

/-- Sends one request to a node and waits no longer than allowed. -/
def exchangeWithin (timeout : Nat) (n : Node) (r : Http.Request) : Async Router.Reply :=
  Async.race (exchange n r) do
    sleep (.ofNat timeout)
    return .nothing

def hexPair (b : UInt8) : String :=
  String.ofList [Nat.digitChar (b.toNat / 16), Nat.digitChar (b.toNat % 16)]

/-- A random name for a request, in the form of a version 4 UUID. -/
def requestId : IO String := do
  let bytes ← IO.getRandomBytes 16
  let marked := (bytes.set! 6 (bytes.get! 6 &&& 0x0F ||| 0x40)).set! 8
    (bytes.get! 8 &&& 0x3F ||| 0x80)
  let pairs := marked.toList.map hexPair
  let part (start length : Nat) := String.join ((pairs.drop start).take length)
  return String.intercalate "-" [part 0 4, part 4 2, part 6 2, part 8 2, part 10 6]

/-- The stamp of a request that began, and whose calls began and ended, at some times in
nanoseconds. -/
def stampOf (id : String) (start sent received now : Nat) : Router.Stamp where
  requestId := id
  hundredths := (now - start) / 10000
  milliseconds :=
    ⟨false, (Binary64.Magnitude.ofRatio? (received - sent) 1000000).getD Binary64.Magnitude.zero⟩

def forward (timeout : Nat) (c : Cluster) (r : Http.Request) : Async Http.Response := do
  let start ← IO.monoNanosNow
  let id ← requestId
  let requests := c.requestsFor r
  let sent ← IO.monoNanosNow
  let replies ← Async.concurrentlyAll <| requests.toArray.map fun (name, request) => do
    match c.find? name with
    | some m => return (name, ← exchangeWithin timeout m.node request)
    | none => return (name, Router.Reply.nothing)
  let received ← IO.monoNanosNow
  return c.respondWith replies.toList (stampOf id start sent received (← IO.monoNanosNow)) r

def serveRouter (bind : SocketAddress) (timeout : Nat) (c : Cluster) : Async Unit := do
  let state ← IO.mkRef c
  serveUntilInterrupt bind ⟨fun r => do forward timeout (← state.get) r⟩
    (state.modify Cluster.stop)

/-! ## The program -/

/-- The variables that options look at. -/
def readEnvironment : IO CommandLine.Environment := do
  let names := CommandLine.Role.router.options.map CommandLine.Opt.environmentName
  let values ← names.mapM fun name => return (name, ← IO.getEnv name)
  return fun name => (values.lookup name).join

/-- The number of a system error. -/
def errorNumber : IO.Error → Nat
  | .permissionDenied _ code _ | .resourceBusy code _ | .unsupportedOperation code _
  | .illegalOperation code _ | .otherError code _ => (0 - code).toNat
  | _ => 22

/-- Ends the program. -/
def finish (e : Program.Exit) : IO UInt32 := do
  if e.code = 0 then IO.println e.text else IO.eprintln e.text
  return e.code.toUInt32

/-- Runs a server to its end. -/
def runServer (bind : SocketAddress) (serving : Async Unit) : IO UInt32 := do
  try
    serving.block
    return 0
  catch e => finish (Program.cannotListen bind (errorNumber e))

end ShardStore.Serving

/-- Runs the program that the arguments and the environment describe. -/
def main (args : List String) : IO UInt32 := do
  match ShardStore.Program.run (fun _ => none) args (← ShardStore.Serving.readEnvironment) with
  | .error e => ShardStore.Serving.finish e
  | .ok (.shard bind s) =>
    ShardStore.Serving.runServer bind (ShardStore.Serving.serveShard bind s)
  | .ok (.router bind timeout c) =>
    ShardStore.Serving.runServer bind (ShardStore.Serving.serveRouter bind timeout c)
