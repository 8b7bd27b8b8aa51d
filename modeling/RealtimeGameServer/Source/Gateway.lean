import RealtimeGameServer.Source.Lobby
import RealtimeGameServer.Source.Protocol
import RealtimeGameServer.Source.SessionManager

/-!
# The WebSocket gateway between two awaits

Source: infrastructure/websocket/gateway.ts. Every handler is an async function
that runs without interruption from one await to the next. A definition here is
one such stretch: it takes the gateway, and what the awaited call resolved to,
and returns the gateway with an `Outcome` that says whether the handler has
settled or which call it now waits for. Clock readings within one stretch agree
and are an argument, as is the value of `randomUUID()`.

Not represented: the payload bytes of a frame (`raw` is its text) and the
close codes of sockets. What `JSON.parse`, the URL parser and the access-token
verification return is a parameter (`Runtime`).
-/
namespace RealtimeGameServer.Source
open Lib

abbrev SocketId := Nat

/-- The upgrade request, as far as `handleConnection` reads it. -/
structure Request where
  forwardedFor : Option String
  remoteAddress : Option String
  authorization : Option String
  url : Option String
  deriving DecidableEq, Repr

inductive ReadyState where
  | opened | closing | closed
  deriving DecidableEq, Repr

/-- The `message` listener of a socket: frames are buffered, handled or ignored. -/
inductive Listening where
  | early (buffer : List String)
  | live
  | off
  deriving DecidableEq, Repr

/-- A `WebSocket` object with the listeners the gateway attached. -/
structure Wire where
  request : Request
  readyState : ReadyState
  listening : Listening
  closeListener : Bool
  deriving DecidableEq, Repr

/-- `SocketContext`. -/
structure SocketContext where
  userId : String
  playerId : String
  username : String
  roomId : Option String
  reconnectToken : Option String
  deriving DecidableEq, Repr

/-- `ReconnectEntry`. -/
structure ReconnectEntry where
  playerId : String
  roomId : String
  expiresAt : Int
  deriving DecidableEq, Repr

/-- `AccessTokenPayload`, the fields the gateway reads. -/
structure AccessTokenPayload where
  userId : String
  playerId : String
  username : String
  deriving DecidableEq, Repr

def reconnectTtlMs : Int := 5 * 60000

/-- The bound `onMessage` puts on `raw.length`. -/
def maxMessageLength : Nat := 16384

/-- Functions of the platform and of the token library; `none` is a throw. The
inner option of `queryToken` is `null` of `searchParams.get('token')`. -/
structure Runtime (R : Type) where
  jsonParse : String → Option (Json R)
  queryToken : String → Option (Option String)
  verifyAccessToken : String → Option AccessTokenPayload

/-- What a promise rejects with. -/
inductive Rejection where
  | app (error : AppError)
  | external
  deriving DecidableEq, Repr

/-- The calls the handlers await. -/
inductive ExternalCall where
  | consume (key : String) (limit windowSeconds : Nat)
  | findById (roomId : String)
  | setOnline (playerId : String) (roomId : Option String)
  | heartbeat (playerId : String) (roomId : Option String)
  | setOffline (playerId : String)
  /-- An await of a promise that has settled already. -/
  | settled
  deriving DecidableEq, Repr

/-- What an awaited call resolved to, or that it rejected. -/
inductive Answer where
  | limit (allowed : Bool)
  | room (found : Option RoomEntity)
  | done
  | failed
  deriving DecidableEq, Repr

/-- Where `onMessage`, with `dispatch` and `joinSession` inside it, waits. -/
inductive FramePc where
  | rateLimited (raw : String)
  | roomLookup (roomId : String)
  | joinOnline (roomId : String) (session : SessionId) (token : String)
  | presenceHeartbeat
  deriving DecidableEq, Repr

/-- How a stretch ends, for a handler with places `pc`. -/
inductive Outcome (Pc : Type) where
  | settled
  | rejected (reason : Rejection)
  | awaiting (pc : Pc) (call : ExternalCall)
  deriving DecidableEq, Repr

/-- The fields of `WebSocketGateway` and what its sockets have been sent. A
context object outlives its entry in `sockets`, so `sockets` holds the keys of
that map in order and `contexts` the object made for each socket. -/
structure Gateway (R : Type) where
  wires : JsMap SocketId Wire
  contexts : JsMap SocketId SocketContext
  sockets : List SocketId
  socketsByPlayer : JsMap String SocketId
  reconnectTokens : JsMap String ReconnectEntry
  subscribedRooms : List String
  sessions : GameSessionManager R
  sent : List (SocketId × ServerMessage R)

namespace Gateway

def empty {R : Type} : Gateway R where
  wires := JsMap.empty
  contexts := JsMap.empty
  sockets := []
  socketsByPlayer := JsMap.empty
  reconnectTokens := JsMap.empty
  subscribedRooms := []
  sessions := .empty
  sent := []

section Sockets
variable {R : Type}

/-- `this.sockets.get(socket)`. -/
def registered (g : Gateway R) (socket : SocketId) : Option SocketContext :=
  if socket ∈ g.sockets then g.contexts.get socket else none

def readyState (g : Gateway R) (socket : SocketId) : ReadyState :=
  ((g.wires.get socket).map Wire.readyState).getD .closed

def modifyWire (g : Gateway R) (socket : SocketId) (f : Wire → Wire) : Gateway R :=
  match g.wires.get socket with
  | none => g
  | some wire => { g with wires := g.wires.set socket (f wire) }

def modifyContext (g : Gateway R) (socket : SocketId) (f : SocketContext → SocketContext) :
    Gateway R :=
  match g.contexts.get socket with
  | none => g
  | some ctx => { g with contexts := g.contexts.set socket (f ctx) }

/-- `socket.close(...)`; the close event follows later. -/
def closeSocket (g : Gateway R) (socket : SocketId) : Gateway R :=
  g.modifyWire socket fun wire =>
    if wire.readyState = .opened then { wire with readyState := .closing } else wire

def send (g : Gateway R) (socket : SocketId) (message : ServerMessage R) : Gateway R :=
  if g.readyState socket = .opened then { g with sent := g.sent ++ [(socket, message)] } else g

def sendError (g : Gateway R) (socket : SocketId) (code message : String) : Gateway R :=
  g.send socket (.error code message)

def broadcast (g : Gateway R) (roomId : String) (message : ServerMessage R) : Gateway R :=
  g.sockets.foldl (fun g socket =>
    match g.registered socket with
    | none => g
    | some ctx => if ctx.roomId = some roomId then g.send socket message else g) g

def replaceExistingSocket (g : Gateway R) (playerId : String) : Gateway R :=
  match g.socketsByPlayer.get playerId with
  | none => g
  | some existing =>
    let g := g.closeSocket existing
    { g with
      sockets := g.sockets.filter (· ≠ existing)
      socketsByPlayer := g.socketsByPlayer.delete playerId }

def purgeExpiredReconnectTokens (g : Gateway R) (now : Int) : Gateway R :=
  { g with reconnectTokens := g.reconnectTokens.filter fun _ entry => ¬entry.expiresAt ≤ now }

end Sockets

/-- `raw.length`: UTF-16 code units. -/
def utf16Length (raw : String) : Nat :=
  (raw.toList.map fun c => if c.val < 0x10000 then 1 else 2).sum

section Frames
variable {R : Type} [Field R] [LinearOrder R] [JsMath R]

/-- `onMessage` up to the rate limiter. -/
def onMessage (env : Env R) (g : Gateway R) (socket : SocketId) (raw : String) :
    Gateway R × Outcome FramePc :=
  match g.registered socket with
  | none => (g, .settled)
  | some ctx =>
    if utf16Length raw > maxMessageLength then
      (g.sendError socket "PAYLOAD_TOO_LARGE" "Message too large", .settled)
    else
      (g, .awaiting (.rateLimited raw)
        (.consume ("ws:" ++ ctx.playerId) env.wsRateLimitPerSecond 1))

/-- Whether `joinSession` refuses the reconnect token it was given. -/
def refusesReconnect (g : Gateway R) (now : Int) (ctx : SocketContext) (roomId : String)
    (reconnectToken : String) : Bool :=
  match g.reconnectTokens.get reconnectToken with
  | none => true
  | some cached =>
    cached.expiresAt ≤ now || cached.playerId ≠ ctx.playerId || cached.roomId ≠ roomId

/-- `joinSession` up to the lobby lookup. An empty token counts as none. -/
def joinSession (g : Gateway R) (now : Int) (socket : SocketId) (ctx : SocketContext)
    (roomId : String) (reconnectToken : Option String) : Gateway R × Outcome FramePc :=
  let g := g.purgeExpiredReconnectTokens now
  let lookup := Outcome.awaiting (.roomLookup roomId) (.findById roomId)
  match reconnectToken.filter (· ≠ "") with
  | none => (g, lookup)
  | some token =>
    let refused := g.refusesReconnect now ctx roomId token
    let g := { g with reconnectTokens := g.reconnectTokens.delete token }
    if refused then
      (g.sendError socket "INVALID_RECONNECT" "Reconnect token invalid", .settled)
    else (g, lookup)

/-- `if (!this.subscribedRooms.has(roomId)) { ... }`. -/
def subscribe (g : Gateway R) (roomId : String) (session : SessionId) : Gateway R :=
  if roomId ∈ g.subscribedRooms then g
  else
    { g with
      subscribedRooms := g.subscribedRooms ++ [roomId]
      sessions := g.sessions.modify session fun o =>
        { o with subscribers := o.subscribers ++ [roomId] } }

/-- The token bookkeeping at the end of `joinSession`. -/
def issueReconnectToken (g : Gateway R) (now : Int) (uuid : String) (socket : SocketId)
    (ctx : SocketContext) (roomId : String) : Gateway R :=
  let tokens := match ctx.reconnectToken with
    | none => g.reconnectTokens
    | some old => g.reconnectTokens.delete old
  let entry := { playerId := ctx.playerId, roomId, expiresAt := now + reconnectTtlMs }
  let g := { g with reconnectTokens := tokens.set uuid entry }
  g.modifyContext socket fun ctx => { ctx with roomId := some roomId, reconnectToken := some uuid }

/-- `joinSession` from the lobby's answer to the presence call. -/
def joinSessionRoom (g : Gateway R) (now : Int) (uuid : String) (socket : SocketId)
    (ctx : SocketContext) (roomId : String) (found : Option RoomEntity) :
    Gateway R × Outcome FramePc :=
  match getRoom found with
  | .error error => (g, .rejected (.app error))
  | .ok room =>
    if ¬room.members.any (fun member => member.playerId = ctx.playerId) then
      (g.sendError socket "FORBIDDEN" "Not a member of this room", .settled)
    else if room.status ≠ .inProgress ∧ room.status ≠ .waiting then
      (g.sendError socket "ROOM_CLOSED" "Room is closed", .settled)
    else
      let (sessions, session) := g.sessions.getOrCreate roomId
      let g := { g with
        sessions := sessions.modifySession session fun s =>
          s.addPlayer now ctx.playerId ctx.username }
      let g := g.subscribe roomId session
      let g := g.issueReconnectToken now uuid socket ctx roomId
      (g, .awaiting (.joinOnline roomId session uuid) (.setOnline ctx.playerId (some roomId)))

/-- The end of `joinSession`. -/
def joinSessionOnline (g : Gateway R) (now : Int) (socket : SocketId) (ctx : SocketContext)
    (roomId : String) (session : SessionId) (token : String) : Gateway R :=
  match g.sessions.object session with
  | none => g
  | some object =>
    let g := g.send socket (.joined roomId ctx.playerId object.session.tick token)
    g.send socket (.snapshot (.full (object.session.buildFullSnapshot now)))

/-- The session of the context's room, if there is one. -/
def currentSession (g : Gateway R) (ctx : SocketContext) : Option SessionId :=
  ctx.roomId.bind g.sessions.get

def dispatchInput (g : Gateway R) (socket : SocketId) (ctx : SocketContext)
    (input : MovementInput R) : Gateway R :=
  if ctx.roomId.isNone then g.sendError socket "NOT_IN_SESSION" "Join a session first"
  else
    match g.currentSession ctx with
    | none => g
    | some session =>
      match g.sessions.object session with
      | none => g
      | some object =>
        let (after, accepted) := object.session.enqueueInput ctx.playerId input
        let g := { g with sessions := g.sessions.modifySession session fun _ => after }
        if accepted then g.send socket (.inputAck input.seq after.tick) else g

def dispatchPing (g : Gateway R) (now : Int) (socket : SocketId) (ctx : SocketContext)
    (clientTime : R) : Gateway R :=
  let rtt := max 0 ((now : R) - clientTime)
  let g := match g.currentSession ctx with
    | none => g
    | some session =>
      { g with sessions := g.sessions.modifySession session (·.updatePing ctx.playerId rtt) }
  g.send socket (.pong clientTime now)

/-- The `heartbeat` arm up to the presence call. -/
def dispatchHeartbeat (g : Gateway R) (now : Int) (ctx : SocketContext) :
    Gateway R × Outcome FramePc :=
  let g := match g.currentSession ctx with
    | none => g
    | some session =>
      { g with sessions := g.sessions.modifySession session (·.heartbeat now ctx.playerId) }
  (g, .awaiting .presenceHeartbeat (.heartbeat ctx.playerId ctx.roomId))

def dispatchSnapshot (g : Gateway R) (now : Int) (socket : SocketId) (ctx : SocketContext) :
    Gateway R :=
  match g.currentSession ctx with
  | none => g
  | some session =>
    match g.sessions.object session with
    | none => g
    | some object => g.send socket (.snapshot (.full (object.session.buildFullSnapshot now)))

def dispatch (g : Gateway R) (now : Int) (socket : SocketId) (ctx : SocketContext) :
    ClientMessage R → Gateway R × Outcome FramePc
  | .joinSession roomId reconnectToken => g.joinSession now socket ctx roomId reconnectToken
  | .input input => (g.dispatchInput socket ctx input, .settled)
  | .ping clientTime => (g.dispatchPing now socket ctx clientTime, .settled)
  | .heartbeat => g.dispatchHeartbeat now ctx
  | .requestSnapshot => (g.dispatchSnapshot now socket ctx, .settled)

/-- `onMessage` from the rate limiter's answer on. -/
def onMessageLimited (rt : Runtime R) (g : Gateway R) (now : Int) (socket : SocketId)
    (ctx : SocketContext) (raw : String) (allowed : Bool) : Gateway R × Outcome FramePc :=
  if ¬allowed then (g.sendError socket "RATE_LIMIT" "Too many messages", .settled)
  else
    match rt.jsonParse raw with
    | none => (g.sendError socket "INVALID_JSON" "Malformed JSON", .settled)
    | some parsed =>
      match clientMessageSchema parsed with
      | none => (g.sendError socket "VALIDATION_ERROR" "Invalid message payload", .settled)
      | some message => g.dispatch now socket ctx message

/-- The next stretch of `onMessage`; `none` for an answer of the wrong kind. A
call that rejects is caught nowhere in it. -/
def resumeFrame (rt : Runtime R) (g : Gateway R) (now : Int) (uuid : String) (socket : SocketId)
    (ctx : SocketContext) (pc : FramePc) (answer : Answer) :
    Option (Gateway R × Outcome FramePc) :=
  match pc, answer with
  | _, .failed => some (g, .rejected .external)
  | .rateLimited raw, .limit allowed => some (g.onMessageLimited rt now socket ctx raw allowed)
  | .roomLookup roomId, .room found =>
    some (g.joinSessionRoom now uuid socket ctx roomId found)
  | .joinOnline roomId session token, .done =>
    some (g.joinSessionOnline now socket ctx roomId session token, .settled)
  | .presenceHeartbeat, .done => some (g.send socket .heartbeat, .settled)
  | _, _ => none

end Frames
end Gateway
end RealtimeGameServer.Source
