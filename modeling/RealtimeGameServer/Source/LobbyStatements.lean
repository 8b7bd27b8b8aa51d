import RealtimeGameServer.Lib.ReadCommitted
import RealtimeGameServer.Source.LobbyService

/-!
# The statements of the lobby

Source: infrastructure/database/prisma-room-repository.ts:61-213 and
prisma-session-repository.ts:38-47, under the service of LobbyService. `addMember`
and `removeMember` are one transaction each, as are `create` and an `update` with
the reads that follow it; every other statement commits by itself. An `include`
is a statement of its own. No statement locks what it reads; a write locks the
row it writes and an insert its unique keys.

The first read of `removeMember` includes members that nobody looks at; that
statement is left out.
-/
namespace RealtimeGameServer.Source
open Lib Calls ReadCommitted

namespace LobbyStatements
open Rooms LobbyService

/-- A call with the draws of its repository calls, in their order. -/
structure DrawnCall where
  call : LobbyService.Call
  draws : List LobbyDraw
  deriving DecidableEq, Repr

/-- The statement a repository call is at. -/
inductive Stage where
  | findMembership (playerId : String)
  | findMembershipRoom (roomId : String)
  | findByCode (code : String)
  | createRoomRow (input : CreateRoomInput)
  | createHostRow (input : CreateRoomInput)
  | addFind (roomId playerId : String)
  | addFindMembers (roomId playerId : String) (row : RoomRow)
  | addInsert (roomId playerId : String)
  | removeFind (roomId playerId : String)
  | removeDelete (roomId playerId hostId : String)
  | removeCount (roomId playerId hostId : String)
  | removeClose (roomId : String)
  | removeFindHost (roomId : String)
  | removeSetHost (roomId hostId : String)
  | readyFind (roomId playerId : String) (ready : Bool)
  | readyUpdate (roomId playerId : String) (ready : Bool) (membershipId : String)
  | updateStatus (roomId : String) (status : RoomStatus)
  | insertSession (roomId : String) (remaining : List RoomMemberEntity) (failed : Option Failure)
      (updated : Reply)
  | reread (roomId : String)
  | readMembers (roomId : String) (row : RoomRow)

/-- A statement of the repository call at a place, the commit before a statement,
or the commit with which the call returns. -/
inductive Pc where
  | runs (place : Place) (draws : List LobbyDraw) (stage : Stage)
  | commits (place : Place) (draws : List LobbyDraw) (stage : Stage)
  | done (reply : Reply)

inductive Effect where
  | insertRoom (roomId : String) (input : CreateRoomInput)
  | insertMember (roomId playerId : String) (member : MemberRow)
  | deleteMember (roomId playerId : String)
  | setReady (roomId playerId : String) (ready : Bool)
  | setStatus (roomId : String) (status : RoomStatus)
  | setHost (roomId hostId : String)
  | insertSession (session : SessionEntity)
  deriving DecidableEq, Repr

inductive Lock where
  | room (roomId : String)
  | code (code : String)
  | member (roomId playerId : String)
  | session (id : String)
  deriving DecidableEq, Repr

def apply (db : LobbyDb) : Effect → LobbyDb
  | .insertRoom roomId input =>
    if db.rooms.has roomId then db else { db with rooms := db.rooms.set roomId (newRoom input) }
  | .insertMember roomId playerId member => updateRoom db roomId (addTo playerId member)
  | .deleteMember roomId playerId => updateRoom db roomId (removeFrom playerId)
  | .setReady roomId playerId ready => updateRoom db roomId (setReadyOf playerId ready)
  | .setStatus roomId status => updateRoom db roomId (Rooms.setStatus status)
  | .setHost roomId hostId => updateRoom db roomId (Rooms.setHost hostId)
  | .insertSession session => { db with sessions := db.sessions ++ [session] }

/-- The row of a member. -/
def memberAt (db : LobbyDb) (roomId playerId : String) : Option MemberRow :=
  (db.rooms.get roomId).bind fun row => row.members.get playerId

/-- The members of a room as they are now. -/
def currentMembers (db : LobbyDb) (roomId : String) : JsMap String MemberRow :=
  ((db.rooms.get roomId).map RoomRow.members).getD .empty

/-- The first statement of the repository call at a place. -/
def first : Place → Stage
  | .createFindByPlayer hostId _ _ => .findMembership hostId
  | .createFindByCode input _ => .findByCode input.code
  | .createInsert input => .createRoomRow input
  | .joinFindByPlayer playerId _ => .findMembership playerId
  | .joinFindByCode _ code => .findByCode code
  | .joinAddMember roomId playerId => .addFind roomId playerId
  | .leaveFindByPlayer playerId => .findMembership playerId
  | .leaveRemoveMember roomId playerId => .removeFind roomId playerId
  | .readyFindByPlayer playerId _ => .findMembership playerId
  | .readySet roomId playerId ready => .readyFind roomId playerId ready
  | .startFindByPlayer playerId => .findMembership playerId
  | .startUpdateStatus room => .updateStatus room.id .inProgress
  | .startCreateSessions roomId remaining failed updated =>
    .insertSession roomId remaining failed updated

def opens (maxPlayersPerRoom : Nat) (call : DrawnCall) : Except Failure Pc :=
  match LobbyService.opens maxPlayersPerRoom call.call with
  | .goes place => .ok (.runs place call.draws (first place))
  | .returns reply => .ok (.done reply)
  | .throws failure => .error failure

/-- The last statement of a repository call: the service takes what it resolves
to, and the transaction commits. -/
def proceed (effects : List Effect) (draws : List LobbyDraw) :
    Next Place Reply Failure → Stmt Effect Pc Failure
  | .goes next => .continues effects (.commits next draws (first next))
  | .returns reply => .continues effects (.done reply)
  | .throws failure => .throws failure

/-- The insert of a member's row. -/
def insertMember (db : LobbyDb) (roomId playerId : String) (member : MemberRow) (next : Pc) :
    Stmt Effect Pc Failure :=
  if (memberAt db roomId playerId).isSome then .throws .uniqueViolation
  else if ¬(db.rooms.has roomId && db.usernames.has playerId) then .throws .foreignKeyViolation
  else .continues [.insertMember roomId playerId member] next

def deletes (db : LobbyDb) (roomId playerId : String) : List Effect :=
  if (memberAt db roomId playerId).isSome then [.deleteMember roomId playerId] else []

/-- The row with the id of the membership, under the key it was read at. -/
def membershipAt (db : LobbyDb) (roomId playerId membershipId : String) : Option MemberRow :=
  (memberAt db roomId playerId).filter fun member => member.id = membershipId

/-- One of the session inserts that `startGame` has issued. Each commits by itself, so the
last one is kept also where the call throws because of another. -/
def settleSession (db : LobbyDb) (roomId : String) (remaining : List RoomMemberEntity)
    (failed : Option Failure) (updated : Reply) (draws : List LobbyDraw) : Stmt Effect Pc Failure :=
  let draw := draws.headD default
  match findFirst remaining draw.pick with
  | none => proceed [] draws.tail (startSessions roomId remaining failed updated)
  | some member =>
    let rest := remaining.eraseIdx (draw.pick % remaining.length)
    let session := newSession roomId member draw
    match refuseSession db session draw with
    | some failure => proceed [] draws.tail (startSessions roomId rest (failed <|> some failure) updated)
    | none =>
      match startSessions roomId rest failed updated with
      | .throws _ =>
        .continues [.insertSession session]
          (.commits (.startCreateSessions roomId rest failed updated) draws.tail
            (.insertSession roomId rest failed updated))
      | next => proceed [.insertSession session] draws.tail next

def needsAt (draw : LobbyDraw) (stage : Stage) (db : LobbyDb) : List Lock :=
  match stage with
  | .createRoomRow input => [.room draw.roomId, .code input.code]
  | .createHostRow input => [.member draw.roomId input.hostId]
  | .addInsert roomId playerId => [.member roomId playerId]
  | .removeDelete roomId playerId _ =>
    if (memberAt db roomId playerId).isSome then [.member roomId playerId] else []
  | .removeClose roomId => if db.rooms.has roomId then [.room roomId] else []
  | .removeSetHost roomId _ => if db.rooms.has roomId then [.room roomId] else []
  | .readyUpdate roomId playerId _ membershipId =>
    if (membershipAt db roomId playerId membershipId).isSome then [.member roomId playerId] else []
  | .updateStatus roomId _ => if db.rooms.has roomId then [.room roomId] else []
  | .insertSession roomId remaining _ _ =>
    ((findFirst remaining draw.pick).map fun member =>
      Lock.session (newSession roomId member draw).id).toList
  | _ => []

def needs (pc : Pc) (db : LobbyDb) : List Lock :=
  match pc with
  | .runs _ draws stage => needsAt (draws.headD default) stage db
  | _ => []

def runStage (place : Place) (draws : List LobbyDraw) (stage : Stage) (db : LobbyDb) :
    Stmt Effect Pc Failure :=
  let draw := draws.headD default
  let next (effects : List Effect) (stage : Stage) : Stmt Effect Pc Failure :=
    .continues effects (.runs place draws stage)
  let resolve (effects : List Effect) (result : Option RoomEntity) :=
    proceed effects draws.tail (answer place draw result)
  match stage with
  | .findMembership playerId =>
    match findFirst (memberships db playerId) draw.pick with
    | none => resolve [] none
    | some room => next [] (.findMembershipRoom room.1)
  | .findMembershipRoom roomId =>
    match db.rooms.get roomId with
    | none => .throws .recordNotFound
    | some row => next [] (.readMembers roomId row)
  | .findByCode code =>
    match rowByCode db code with
    | none => resolve [] none
    | some room => next [] (.readMembers room.1 room.2)
  | .createRoomRow input =>
    if db.rooms.has draw.roomId || (rowByCode db input.code).isSome then .throws .uniqueViolation
    else if ¬inInt4 input.maxPlayers then .throws .valueOutOfRange
    else next [.insertRoom draw.roomId input] (.createHostRow input)
  | .createHostRow input =>
    insertMember db draw.roomId input.hostId (newMember draw) (.runs place draws (.reread draw.roomId))
  | .addFind roomId playerId =>
    match db.rooms.get roomId with
    | none => .throws (.app (.notFound "Room"))
    | some row => next [] (.addFindMembers roomId playerId row)
  | .addFindMembers roomId playerId row =>
    let room := mapRoom db roomId { row with members := currentMembers db roomId }
    match checkAdd playerId room with
    | .error failure => .throws failure
    | .ok () => next [] (.addInsert roomId playerId)
  | .addInsert roomId playerId =>
    insertMember db roomId playerId (newMember draw) (.runs place draws (.reread roomId))
  | .removeFind roomId playerId =>
    match db.rooms.get roomId with
    | none => .throws (.app (.notFound "Room"))
    | some row => next [] (.removeDelete roomId playerId row.hostId)
  | .removeDelete roomId playerId hostId =>
    next (deletes db roomId playerId) (.removeCount roomId playerId hostId)
  | .removeCount roomId playerId hostId =>
    if (currentMembers db roomId).size = 0 then next [] (.removeClose roomId)
    else if hostId = playerId then next [] (.removeFindHost roomId)
    else next [] (.reread roomId)
  | .removeClose roomId =>
    if db.rooms.has roomId then resolve [.setStatus roomId .closed] none
    else .throws .recordNotFound
  | .removeFindHost roomId =>
    match nextHost db roomId with
    | none => next [] (.reread roomId)
    | some hostId => next [] (.removeSetHost roomId hostId)
  | .removeSetHost roomId hostId =>
    if db.rooms.has roomId then next [.setHost roomId hostId] (.reread roomId)
    else .throws .recordNotFound
  | .readyFind roomId playerId ready =>
    match memberAt db roomId playerId with
    | none => .throws (.app (.notFound "Room membership"))
    | some member =>
      .continues [] (.commits place draws (.readyUpdate roomId playerId ready member.id))
  | .readyUpdate roomId playerId ready membershipId =>
    match membershipAt db roomId playerId membershipId with
    | none => .throws .recordNotFound
    | some _ =>
      .continues [.setReady roomId playerId ready] (.commits place draws (.reread roomId))
  | .updateStatus roomId status =>
    if db.rooms.has roomId then next [.setStatus roomId status] (.reread roomId)
    else .throws .recordNotFound
  | .insertSession roomId remaining failed updated =>
    settleSession db roomId remaining failed updated draws
  | .reread roomId =>
    match db.rooms.get roomId with
    | none => .throws .recordNotFound
    | some row => next [] (.readMembers roomId row)
  | .readMembers roomId row =>
    resolve [] (some (mapRoom db roomId { row with members := currentMembers db roomId }))

def run (pc : Pc) (db : LobbyDb) : Stmt Effect Pc Failure :=
  match pc with
  | .runs place draws stage => runStage place draws stage db
  | pc => .continues [] pc

def follow : Pc → Follow Pc Reply
  | .runs _ _ _ => .statement
  | .commits place draws stage => .commitThen (.runs place draws stage)
  | .done reply => .commitReturn reply

/-- The calls of the lobby service as concurrent transactions. -/
def protocol (maxPlayersPerRoom : Nat) :
    Protocol LobbyDb Effect Lock DrawnCall Pc Reply Failure where
  apply
  opens := opens maxPlayersPerRoom
  needs
  run
  follow

end LobbyStatements
end RealtimeGameServer.Source
