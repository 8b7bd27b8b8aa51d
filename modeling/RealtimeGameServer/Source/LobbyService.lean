import RealtimeGameServer.Lib.Calls
import RealtimeGameServer.Source.JsString
import RealtimeGameServer.Source.Rooms

/-!
# The lobby service

Source: application/services/lobby-service.ts. A call runs through places, one
for each repository call it makes; `answer` is the code that runs on what the
repository call resolved to. Here repository calls are atomic; in
LobbyStatements the same places run through their statements. The reads
`getRoom`, `getMyRoom` and `listRooms` are left out.

`startGame` issues the session inserts of all members at once: they run in any
order, also after one has been refused, and the call ends when all have settled.
-/
namespace RealtimeGameServer.Source
open Lib Calls

namespace LobbyService
open Rooms

inductive Call where
  | createRoom (hostId name : String) (maxPlayers : Option Nat)
  | joinRoom (playerId code : String)
  | leaveRoom (playerId : String)
  | setReady (playerId : String) (ready : Bool)
  | startGame (playerId : String)
  deriving DecidableEq, Repr

/-- What a call resolves to: a room or `null`. -/
abbrev Reply := Option RoomEntity

/-- The repository call a call of the service is at, with what it remembers. -/
inductive Place where
  | createFindByPlayer (hostId name : String) (capacity : Nat)
  | createFindByCode (input : CreateRoomInput) (attempt : Nat)
  | createInsert (input : CreateRoomInput)
  | joinFindByPlayer (playerId code : String)
  | joinFindByCode (playerId code : String)
  | joinAddMember (roomId playerId : String)
  | leaveFindByPlayer (playerId : String)
  | leaveRemoveMember (roomId playerId : String)
  | readyFindByPlayer (playerId : String) (ready : Bool)
  | readySet (roomId playerId : String) (ready : Bool)
  | startFindByPlayer (playerId : String)
  | startUpdateStatus (room : RoomEntity)
  | startCreateSessions (roomId : String) (remaining : List RoomMemberEntity)
      (failed : Option Failure) (updated : Reply)
  deriving DecidableEq, Repr

/-- What runs before the first repository call. -/
def opens (maxPlayersPerRoom : Nat) (call : Call) : Next Place Reply Failure :=
  match call with
  | .createRoom hostId name maxPlayers =>
    let capacity := maxPlayers.getD maxPlayersPerRoom
    if capacity < 2 || capacity > maxPlayersPerRoom then
      .throws (.app (.validation ("maxPlayers must be between 2 and " ++ toString maxPlayersPerRoom)))
    else .goes (.createFindByPlayer hostId name capacity)
  | .joinRoom playerId code => .goes (.joinFindByPlayer playerId code)
  | .leaveRoom playerId => .goes (.leaveFindByPlayer playerId)
  | .setReady playerId ready => .goes (.readyFindByPlayer playerId ready)
  | .startGame playerId => .goes (.startFindByPlayer playerId)

/-- The checks of `startGame` on the room it has read. -/
def checkStart (playerId : String) (room : RoomEntity) : Except Failure Unit :=
  if room.hostId ≠ playerId then .error (.app (.forbidden "Only the host can start the game"))
  else if room.status ≠ .waiting then .error (.app (.conflict "Room already started"))
  else if room.members.length < 1 then .error (.app (.validation "Need at least one player"))
  else if ¬room.members.all fun member => member.ready || member.playerId = room.hostId then
    .error (.app (.validation "All non-host players must be ready"))
  else .ok ()

/-- `Promise.all` over the members that have no session yet. -/
def startSessions (roomId : String) (remaining : List RoomMemberEntity) (failed : Option Failure)
    (updated : Reply) : Next Place Reply Failure :=
  match remaining, failed with
  | [], none => .returns updated
  | [], some failure => .throws failure
  | _, _ => .goes (.startCreateSessions roomId remaining failed updated)

def alreadyInRoom : Failure := .app (.conflict "Already in a room")

def noMembership : Failure := .app (.notFound "Room membership")

/-- What the service does with the room a repository call resolved to. -/
def answer (place : Place) (draw : LobbyDraw) (result : Option RoomEntity) :
    Next Place Reply Failure :=
  match place, result with
  | .createFindByPlayer _ _ _, some _ => .throws alreadyInRoom
  | .createFindByPlayer hostId name capacity, none =>
    .goes (.createFindByCode { name, hostId, maxPlayers := capacity, code := draw.code } 0)
  | .createFindByCode input _, none => .goes (.createInsert input)
  | .createFindByCode input attempt, some _ =>
    if attempt + 1 < 5 then .goes (.createFindByCode { input with code := draw.code } (attempt + 1))
    else .goes (.createInsert { input with code := draw.code })
  | .createInsert _, room => .returns room
  | .joinFindByPlayer _ _, some _ => .throws alreadyInRoom
  | .joinFindByPlayer playerId code, none => .goes (.joinFindByCode playerId (toUpperCase code))
  | .joinFindByCode _ _, none => .throws (.app (.notFound "Room"))
  | .joinFindByCode playerId _, some room => .goes (.joinAddMember room.id playerId)
  | .joinAddMember _ _, room => .returns room
  | .leaveFindByPlayer _, none => .throws noMembership
  | .leaveFindByPlayer playerId, some room => .goes (.leaveRemoveMember room.id playerId)
  | .leaveRemoveMember _ _, room => .returns room
  | .readyFindByPlayer _ _, none => .throws noMembership
  | .readyFindByPlayer playerId ready, some room =>
    if room.status ≠ .waiting then
      .throws (.app (.conflict "Cannot change ready state after game start"))
    else .goes (.readySet room.id playerId ready)
  | .readySet _ _ _, room => .returns room
  | .startFindByPlayer _, none => .throws noMembership
  | .startFindByPlayer playerId, some room =>
    match checkStart playerId room with
    | .error failure => .throws failure
    | .ok () => .goes (.startUpdateStatus room)
  | .startUpdateStatus room, updated => startSessions room.id room.members none updated
  | .startCreateSessions roomId remaining failed updated, _ =>
    startSessions roomId remaining failed updated

/-- A repository call and what the service does with its answer. -/
def repositoryCall (place : Place) (draw : LobbyDraw) (db : LobbyDb)
    (result : Except Failure (LobbyDb × Option RoomEntity)) : LobbyDb × Next Place Reply Failure :=
  match result with
  | .error failure => (db, .throws failure)
  | .ok (db, room) => (db, answer place draw room)

/-- One of the session inserts that `startGame` has issued settles. -/
def settleSession (roomId : String) (remaining : List RoomMemberEntity) (failed : Option Failure)
    (updated : Reply) (draw : LobbyDraw) (db : LobbyDb) : LobbyDb × Next Place Reply Failure :=
  match findFirst remaining draw.pick with
  | none => (db, startSessions roomId remaining failed updated)
  | some member =>
    let rest := remaining.eraseIdx (draw.pick % remaining.length)
    match createSession db (newSession roomId member draw) draw with
    | .error failure => (db, startSessions roomId rest (failed <|> some failure) updated)
    | .ok db => (db, startSessions roomId rest failed updated)

def run (place : Place) (draw : LobbyDraw) (db : LobbyDb) : LobbyDb × Next Place Reply Failure :=
  let call := repositoryCall place draw db
  match place with
  | .createFindByPlayer hostId _ _ => call (.ok (db, findByPlayerId db hostId draw.pick))
  | .createFindByCode input _ => call (.ok (db, findByCode db input.code))
  | .createInsert input => call (create db input draw)
  | .joinFindByPlayer playerId _ => call (.ok (db, findByPlayerId db playerId draw.pick))
  | .joinFindByCode _ code => call (.ok (db, findByCode db code))
  | .joinAddMember roomId playerId => call (addMember db roomId playerId draw)
  | .leaveFindByPlayer playerId => call (.ok (db, findByPlayerId db playerId draw.pick))
  | .leaveRemoveMember roomId playerId => call (removeMember db roomId playerId)
  | .readyFindByPlayer playerId _ => call (.ok (db, findByPlayerId db playerId draw.pick))
  | .readySet roomId playerId ready => call (setReady db roomId playerId ready)
  | .startFindByPlayer playerId => call (.ok (db, findByPlayerId db playerId draw.pick))
  | .startUpdateStatus room => call (updateStatus db room.id .inProgress)
  | .startCreateSessions roomId remaining failed updated =>
    settleSession roomId remaining failed updated draw db

/-- The service as concurrent calls. -/
def program (maxPlayersPerRoom : Nat) : Program LobbyDb Call LobbyDraw Place Reply Failure where
  opens call _ := opens maxPlayersPerRoom call
  run := run

end LobbyService
end RealtimeGameServer.Source
