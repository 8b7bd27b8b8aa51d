import RealtimeGameServer.Source.GatewayChanges
import RealtimeGameServer.Source.LobbySteps

/-!
# The lobby routes and the gateway over their stores

Source: shared/container.ts, api/routes/lobby.ts and the calls the gateway makes of
the lobby. The container holds the lobby's tables and the gateway with the game
sessions. Here one step is a request or an arrival handled to its end: a lobby
route with its repository calls, a socket that connects, a frame or a close with
the calls its handler awaits, or a tick. What the lobby answers the gateway is read
from the tables. Left out: the routes that only read, `authenticate` and the
schemas of the bodies.
-/
namespace RealtimeGameServer.Source
open Lib

/-- `AppContainer`, the members that the lobby routes and the gateway use. -/
structure AppContainer (R : Type) where
  lobby : LobbyDb
  wsGateway : Server R

/-- How an awaited call goes: it fails, or it is answered at a time; the rate
limiter allows or refuses. -/
structure CallReply where
  now : Int
  uuid : String
  failed : Bool
  allowed : Bool
  deriving DecidableEq, Repr, Inhabited

/-- What the call resolves to. -/
def CallReply.answer (reply : CallReply) (db : LobbyDb) (call : ExternalCall) : Answer :=
  if reply.failed then .failed
  else
    match call with
    | .consume _ _ _ => .limit reply.allowed
    | .findById roomId => .room (Rooms.findById db roomId)
    | _ => .done

namespace Server
variable {R : Type} [Field R] [LinearOrder R] [JsMath R]

/-- A handler run to its end with nothing in between. `none` where the replies do
not fit. -/
def settle (env : Env R) (rt : Runtime R) (db : LobbyDb) (number : Nat) :
    List CallReply → Server R → Option (Server R)
  | [], s => if s.handlers.has number then none else some s
  | reply :: rest, s =>
    (s.handlers.get number).bind fun suspended =>
      (s.resume env rt number reply.now reply.uuid (reply.answer db suspended.call)).bind
        (settle env rt db number rest)

/-- The rule for a handler run to its end. -/
theorem settle_rule {env : Env R} {rt : Runtime R} {db : LobbyDb} {I : Server R → Prop}
    {number : Nat}
    (hresume : ∀ s t suspended (reply : CallReply), I s → s.handlers.get number = some suspended →
      s.resume env rt number reply.now reply.uuid (reply.answer db suspended.call) = some t → I t)
    {replies : List CallReply} {s t : Server R} (h0 : I s)
    (h : s.settle env rt db number replies = some t) : I t := by
  induction replies generalizing s with
  | nil =>
    simp only [settle] at h
    split at h <;> cases h
    exact h0
  | cons reply rest ih =>
    obtain ⟨suspended, hget, h⟩ := Option.bind_eq_some_iff.mp h
    obtain ⟨u, hu, hrest⟩ := Option.bind_eq_some_iff.mp h
    exact ih (hresume s u suspended reply h0 hget hu) hrest

/-- A handler run to its end is one of the runs of the server. -/
theorem settle_exec {env : Env R} {rt : Runtime R} {db : LobbyDb} {number : Nat}
    {replies : List CallReply} {s t : Server R}
    (h : s.settle env rt db number replies = some t) :
    ∃ answers : List Answer, (machine env rt).exec s (List.zipWith
      (fun reply answer => .answer number reply.now reply.uuid answer) replies answers) = some t := by
  induction replies generalizing s with
  | nil =>
    simp only [settle] at h
    split at h <;> cases h
    exact ⟨[], rfl⟩
  | cons reply rest ih =>
    obtain ⟨suspended, -, h⟩ := Option.bind_eq_some_iff.mp h
    obtain ⟨u, hu, hrest⟩ := Option.bind_eq_some_iff.mp h
    obtain ⟨answers, hexec⟩ := ih hrest
    exact ⟨_ :: answers, Machine.exec_cons.mpr ⟨u, hu, hexec⟩⟩

end Server

inductive AppEvent where
  /-- A lobby route; `draws` is what its repository calls draw, `now` the clock the
  start route reads. -/
  | route (call : LobbyService.Call) (draws : List (Except Failure LobbyDraw)) (now : Int)
  | connect (socket : SocketId) (request : Request) (replies : List CallReply)
  | frame (socket : SocketId) (raw : String) (replies : List CallReply)
  | close (socket : SocketId) (replies : List CallReply)
  | tick (session : SessionId) (now : Int)

namespace AppContainer
variable {R : Type} [Field R] [JsMath R]

/-- The sessions after `/rooms/start`, from the room `startGame` resolved to. -/
def startRoute (m : GameSessionManager R) (now : Int) (room : RoomEntity) : GameSessionManager R :=
  room.members.foldl (fun m member =>
    match m.get room.id with
    | none => m
    | some session =>
      m.modifySession session fun s => s.addPlayer now member.playerId member.username)
    (m.getOrCreate room.id).1

/-- What a lobby route does after the service has resolved. -/
def respond (s : AppContainer R) (call : LobbyService.Call) (now : Int) (db : LobbyDb)
    (result : Except Failure LobbyService.Reply) : AppContainer R :=
  match call, result with
  | .startGame _, .ok (some room) =>
    { lobby := db
      wsGateway := { s.wsGateway with
        gateway := { s.wsGateway.gateway with
          sessions := startRoute s.wsGateway.gateway.sessions now room } } }
  | _, _ => { s with lobby := db }

def route (maxPlayersPerRoom : Nat) (s : AppContainer R) (call : LobbyService.Call)
    (draws : List (Except Failure LobbyDraw)) (now : Int) : Option (AppContainer R) :=
  (Calls.finish (LobbyService.program maxPlayersPerRoom)
    (LobbyService.opens maxPlayersPerRoom call) draws s.lobby).map fun (db, result) =>
      s.respond call now db result

variable [LinearOrder R]

def step (env : Env R) (rt : Runtime R) (maxPlayersPerRoom : Nat) (s : AppContainer R) :
    AppEvent → Option (AppContainer R)
  | .route call draws now => s.route maxPlayersPerRoom call draws now
  | .connect socket request replies =>
    ((s.wsGateway.connect env socket request).bind
      (Server.settle env rt s.lobby s.wsGateway.started replies)).map fun server =>
        { s with wsGateway := server }
  | .frame socket raw replies =>
    ((s.wsGateway.frame env socket raw).bind
      (Server.settle env rt s.lobby s.wsGateway.started replies)).map fun server =>
        { s with wsGateway := server }
  | .close socket replies =>
    ((s.wsGateway.close socket).bind
      (Server.settle env rt s.lobby s.wsGateway.started replies)).map fun server =>
        { s with wsGateway := server }
  | .tick session now => (s.wsGateway.tick env session now).map fun server =>
    { s with wsGateway := server }

def machine (env : Env R) (rt : Runtime R) (maxPlayersPerRoom : Nat) :
    Machine (AppContainer R) AppEvent where
  step := step env rt maxPlayersPerRoom

end AppContainer

/-- The server as it starts, over the tables it finds. -/
def AppContainer.start {R : Type} (db : LobbyDb) : AppContainer R where
  lobby := db
  wsGateway := .empty

end RealtimeGameServer.Source
