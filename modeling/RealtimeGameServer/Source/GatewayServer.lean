import RealtimeGameServer.Source.Gateway
import RealtimeGameServer.Source.JsString

/-!
# The gateway as an event-driven server

Source: infrastructure/websocket/gateway.ts:48-155 and 322-351. The stretches of
the gateway's handlers become one machine: an event starts a handler or resumes
one with the answer to the call it awaits, and the handlers in flight are part
of the state. Every interleaving at awaits is a run. A handler that rejects
leaves an entry in `unhandled`: `handleConnection`, `onMessage` and `onClose`
are all started with `void`.
-/
namespace RealtimeGameServer.Source
open Lib

/-- Where `handleConnection` waits. -/
inductive ConnectionPc where
  | ipLimited
  | online
  /-- Inside `onMessage` for a buffered frame, `rest` still to come. -/
  | early (rest : List String) (pc : FramePc)
  /-- After a buffered frame that has been dealt with. -/
  | next (rest : List String)
  deriving DecidableEq, Repr

inductive Handler where
  | message (socket : SocketId) (pc : FramePc)
  | connection (socket : SocketId) (pc : ConnectionPc)
  | close (socket : SocketId)
  deriving DecidableEq, Repr

/-- A handler in flight and the call it awaits. -/
structure Suspended where
  handler : Handler
  call : ExternalCall
  deriving DecidableEq, Repr

def clientIp {R : Type} [Field R] [LinearOrder R] (env : Env R) (request : Request) : String :=
  let remote := orElse (request.remoteAddress.getD "") "unknown"
  match request.forwardedFor with
  | none => remote
  | some forwarded =>
    if forwarded ≠ "" ∧ env.trustProxy then
      orElse (trim (String.ofList (forwarded.toList.takeWhile (· ≠ ',')))) remote
    else remote

/-- `extractToken`; `none` for every throw. -/
def extractToken {R : Type} (rt : Runtime R) (request : Request) : Option String :=
  let bearer := (request.authorization.getD "").toList
  if "Bearer ".toList.isPrefixOf bearer then some (String.ofList (bearer.drop 7))
  else
    match rt.queryToken (request.url.getD "") with
    | none => none
    | some queryToken => queryToken.filter (· ≠ "")

/-- `extractToken` and `verifyAccessToken` in sequence. -/
def authenticate {R : Type} (rt : Runtime R) (request : Request) : Option AccessTokenPayload :=
  (extractToken rt request).bind rt.verifyAccessToken

namespace Gateway
variable {R : Type}

/-- `socket.off('message', bufferEarly)`. -/
def offEarly (g : Gateway R) (socket : SocketId) : Gateway R :=
  g.modifyWire socket fun wire =>
    match wire.listening with
    | .early _ => { wire with listening := .off }
    | _ => wire

/-- The `catch` block of `handleConnection`. -/
def refuseConnection (g : Gateway R) (socket : SocketId) : Gateway R :=
  let g := g.offEarly socket
  let g := g.sendError socket "UNAUTHORIZED" "Invalid or missing access token"
  g.closeSocket socket

/-- The registration of an authenticated socket. -/
def register (g : Gateway R) (socket : SocketId) (payload : AccessTokenPayload) : Gateway R :=
  let g := g.replaceExistingSocket payload.playerId
  let ctx := {
    userId := payload.userId
    playerId := payload.playerId
    username := payload.username
    roomId := none
    reconnectToken := none }
  { g with
    contexts := g.contexts.set socket ctx
    sockets := g.sockets ++ [socket]
    socketsByPlayer := g.socketsByPlayer.set payload.playerId socket }

variable [Field R] [LinearOrder R] [JsMath R]

/-- `for (const raw of earlyMessages) await this.onMessage(socket, raw)`, up to
the first await. -/
def drainEarly (env : Env R) (g : Gateway R) (socket : SocketId) (messages : List String) :
    Gateway R × Outcome ConnectionPc :=
  match messages with
  | [] => (g, .settled)
  | raw :: rest =>
    match g.onMessage env socket raw with
    | (g, .settled) => (g, .awaiting (.next rest) .settled)
    | (g, .rejected _) => (g.refuseConnection socket, .settled)
    | (g, .awaiting pc call) => (g, .awaiting (.early rest pc) call)

/-- The stretch that attaches the listeners. -/
def startListening (env : Env R) (g : Gateway R) (socket : SocketId) (wire : Wire) :
    Gateway R × Outcome ConnectionPc :=
  let earlyMessages := match wire.listening with
    | .early buffer => buffer
    | _ => []
  let g := g.modifyWire socket fun wire => { wire with listening := .live, closeListener := true }
  g.drainEarly env socket earlyMessages

/-- The next stretch of `handleConnection`; whatever throws in it is caught. -/
def resumeConnection (env : Env R) (rt : Runtime R) (g : Gateway R) (now : Int) (uuid : String)
    (socket : SocketId) (wire : Wire) (pc : ConnectionPc) (answer : Answer) :
    Option (Gateway R × Outcome ConnectionPc) :=
  match pc, answer with
  | .ipLimited, .failed => some (g.refuseConnection socket, .settled)
  | .ipLimited, .limit allowed =>
    if ¬allowed then some ((g.offEarly socket).closeSocket socket, .settled)
    else
      match authenticate rt wire.request with
      | none => some (g.refuseConnection socket, .settled)
      | some payload =>
        some (g.register socket payload, .awaiting .online (.setOnline payload.playerId none))
  | .online, .failed => some (g.refuseConnection socket, .settled)
  | .online, .done => some (g.startListening env socket wire)
  | .early rest framePc, answer =>
    (g.contexts.get socket).bind fun ctx =>
      (g.resumeFrame rt now uuid socket ctx framePc answer).map fun (g, outcome) =>
        match outcome with
        | .settled => (g, .awaiting (.next rest) .settled)
        | .rejected _ => (g.refuseConnection socket, .settled)
        | .awaiting framePc call => (g, .awaiting (.early rest framePc) call)
  | .next rest, .done => some (g.drainEarly env socket rest)
  | _, _ => none

/-- `onClose` up to the presence call. -/
def onClose (g : Gateway R) (socket : SocketId) : Gateway R × Outcome Unit :=
  match g.registered socket with
  | none => ({ g with sockets := g.sockets.filter (· ≠ socket) }, .settled)
  | some ctx =>
    let g := { g with sockets := g.sockets.filter (· ≠ socket) }
    let g :=
      if g.socketsByPlayer.get ctx.playerId = some socket then
        { g with socketsByPlayer := g.socketsByPlayer.delete ctx.playerId }
      else g
    let g := match g.currentSession ctx with
      | none => g
      | some session =>
        { g with
          sessions := g.sessions.modifySession session fun s => (s.markDisconnected ctx.playerId).1 }
    (g, .awaiting () (.setOffline ctx.playerId))

/-- The timer of a session object: a tick, and its snapshot to every listener. -/
def tick (env : Env R) (g : Gateway R) (now : Int) (session : SessionId)
    (object : SessionObject R) : Gateway R :=
  let result := object.session.step env now
  let g := { g with sessions := g.sessions.modifySession session fun _ => result.session }
  result.events.foldl (fun g event =>
    match event with
    | .snapshot message =>
      object.subscribers.foldl (fun g roomId => g.broadcast roomId (.snapshot message)) g
    | .playerDisconnected _ => g) g

end Gateway

/-- The gateway, the handlers in flight by number, how many have been started,
and the rejections nobody handles. -/
structure Server (R : Type) where
  gateway : Gateway R
  handlers : JsMap Nat Suspended
  started : Nat
  unhandled : List (Handler × Rejection)

inductive ServerEvent where
  | connect (socket : SocketId) (request : Request)
  | frame (socket : SocketId) (raw : String)
  | answer (handler : Nat) (now : Int) (uuid : String) (answer : Answer)
  /-- The close event of a socket. -/
  | close (socket : SocketId)
  | tick (session : SessionId) (now : Int)
  | destroy (roomId : String)
  | shutdown
  deriving DecidableEq, Repr

namespace Server
variable {R : Type}

def empty : Server R where
  gateway := .empty
  handlers := JsMap.empty
  started := 0
  unhandled := []

/-- What becomes of handler `number`, which was at `origin` when it ran. -/
def conclude {Pc : Type} (s : Server R) (number : Nat) (origin : Handler) (resume : Pc → Handler)
    (result : Gateway R × Outcome Pc) : Server R :=
  match result.2 with
  | .settled => { s with gateway := result.1, handlers := s.handlers.delete number }
  | .rejected reason =>
    { s with
      gateway := result.1
      handlers := s.handlers.delete number
      unhandled := s.unhandled ++ [(origin, reason)] }
  | .awaiting pc call =>
    { s with gateway := result.1, handlers := s.handlers.set number ⟨resume pc, call⟩ }

/-- A handler that starts takes the next number. -/
def launch {Pc : Type} (s : Server R) (origin : Handler) (resume : Pc → Handler)
    (result : Gateway R × Outcome Pc) : Server R :=
  { s with started := s.started + 1 }.conclude s.started origin resume result

variable [Field R] [LinearOrder R] [JsMath R]

def connect (env : Env R) (s : Server R) (socket : SocketId) (request : Request) :
    Option (Server R) :=
  match s.gateway.wires.get socket with
  | some _ => none
  | none =>
    let wire := { request, readyState := .opened, listening := .early [], closeListener := false }
    let g := { s.gateway with wires := s.gateway.wires.set socket wire }
    let call := ExternalCall.consume ("ws-connect:" ++ clientIp env request)
      env.wsConnectRateLimitPerMinute 60
    some (s.launch (.connection socket .ipLimited) (.connection socket)
      (g, .awaiting .ipLimited call))

/-- A text frame arrives and goes to the listener attached at that time. -/
def frame (env : Env R) (s : Server R) (socket : SocketId) (raw : String) : Option (Server R) :=
  match s.gateway.wires.get socket with
  | none => none
  | some wire =>
    if wire.readyState = .closed then none
    else
      match wire.listening with
      | .early buffer =>
        some { s with
          gateway := s.gateway.modifyWire socket fun wire =>
            { wire with listening := .early (buffer ++ [raw]) } }
      | .live =>
        some (s.launch (.message socket (.rateLimited raw)) (.message socket)
          (s.gateway.onMessage env socket raw))
      | .off => some s

def resume (env : Env R) (rt : Runtime R) (s : Server R) (number : Nat) (now : Int)
    (uuid : String) (answer : Answer) : Option (Server R) :=
  match s.handlers.get number with
  | none => none
  | some ⟨.message socket pc, _⟩ =>
    (s.gateway.contexts.get socket).bind fun ctx =>
      (s.gateway.resumeFrame rt now uuid socket ctx pc answer).map
        (s.conclude number (.message socket pc) (.message socket))
  | some ⟨.connection socket pc, _⟩ =>
    (s.gateway.wires.get socket).bind fun wire =>
      (s.gateway.resumeConnection env rt now uuid socket wire pc answer).map
        (s.conclude number (.connection socket pc) (.connection socket))
  | some ⟨.close socket, _⟩ =>
    match answer with
    | .done =>
      some (s.conclude number (.close socket) (fun _ : Unit => .close socket)
        (s.gateway, .settled))
    | .failed =>
      some (s.conclude number (.close socket) (fun _ : Unit => .close socket)
        (s.gateway, .rejected .external))
    | _ => none

/-- The close event; without a listener nobody learns of it. -/
def close (s : Server R) (socket : SocketId) : Option (Server R) :=
  match s.gateway.wires.get socket with
  | none => none
  | some wire =>
    if wire.readyState = .closed then none
    else
      let g := s.gateway.modifyWire socket fun wire => { wire with readyState := .closed }
      if wire.closeListener then
        some (s.launch (.close socket) (fun _ => .close socket) (g.onClose socket))
      else some { s with gateway := g }

def tick (env : Env R) (s : Server R) (session : SessionId) (now : Int) : Option (Server R) :=
  match s.gateway.sessions.object session with
  | none => none
  | some object =>
    if object.running then some { s with gateway := s.gateway.tick env now session object }
    else none

/-- One event; `none` where it cannot happen. -/
def step (env : Env R) (rt : Runtime R) (s : Server R) : ServerEvent → Option (Server R)
  | .connect socket request => s.connect env socket request
  | .frame socket raw => s.frame env socket raw
  | .answer number now uuid answer => s.resume env rt number now uuid answer
  | .close socket => s.close socket
  | .tick session now => s.tick env session now
  | .destroy roomId =>
    some { s with
      gateway := { s.gateway with sessions := s.gateway.sessions.destroy roomId } }
  | .shutdown =>
    some { s with
      gateway := { s.gateway.sockets.foldl Gateway.closeSocket s.gateway with
        sessions := s.gateway.sessions.destroyAll } }

def machine (env : Env R) (rt : Runtime R) : Machine (Server R) ServerEvent where
  step := step env rt

end Server
end RealtimeGameServer.Source
