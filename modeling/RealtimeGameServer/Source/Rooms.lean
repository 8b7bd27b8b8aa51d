import Mathlib.Data.List.Sort
import RealtimeGameServer.Lib.JsMap
import RealtimeGameServer.Source.Database
import RealtimeGameServer.Source.Lobby

/-!
# The tables of the lobby and their repositories

Source: prisma/schema.prisma:79-123, infrastructure/database/prisma-room-repository.ts
and prisma-session-repository.ts:38-47. Here every repository method is one
step; its statements are in LobbyStatements. A row of `room_members` refers to a
room and is unique for its room and player, so the members of a room are a map
of its row. The `now()` of a column, the drawn identifiers and the row that a
`findFirst` without an order finds are given by the environment.
-/
namespace RealtimeGameServer.Source
open Lib

structure MemberRow where
  id : String
  ready : Bool
  joinedAt : Int
  deriving DecidableEq, Repr

/-- A room with its members by player. -/
structure RoomRow where
  code : String
  name : String
  hostId : String
  maxPlayers : Nat
  status : RoomStatus
  members : JsMap String MemberRow

inductive SessionStatus where
  | active | disconnected | ended
  deriving DecidableEq, Repr

/-- A row of `sessions`; `username` is its `metadata`. -/
structure SessionEntity where
  id : String
  roomId : String
  playerId : String
  status : SessionStatus
  username : String
  deriving DecidableEq, Repr

/-- Rooms by id, sessions, and the usernames of the players. -/
structure LobbyDb where
  rooms : JsMap String RoomRow
  sessions : List SessionEntity
  usernames : JsMap String String

structure CreateRoomInput where
  name : String
  hostId : String
  maxPlayers : Nat
  code : String
  deriving DecidableEq, Repr

/-- What the environment provides for one repository call: the row a `findFirst`
finds, a drawn room code, the identifiers of inserted rows and the time, and the
failure of a session insert. -/
structure LobbyDraw where
  pick : Nat
  code : String
  roomId : String
  rowId : String
  now : Int
  refused : Option Failure
  deriving DecidableEq, Repr, Inhabited

namespace Rooms

def mapMember (db : LobbyDb) (roomId : String) (member : String × MemberRow) : RoomMemberEntity where
  id := member.2.id
  roomId
  playerId := member.1
  username := (db.usernames.get member.1).getD ""
  ready := member.2.ready
  joinedAt := member.2.joinedAt

/-- `memberInclude`: the members in the order of `joinedAt`. -/
def membersOf (db : LobbyDb) (roomId : String) (members : JsMap String MemberRow) :
    List RoomMemberEntity :=
  (members.entries.map (mapMember db roomId)).insertionSort fun a b => a.joinedAt ≤ b.joinedAt

def mapRoom (db : LobbyDb) (roomId : String) (row : RoomRow) : RoomEntity where
  id := roomId
  code := row.code
  name := row.name
  hostId := row.hostId
  maxPlayers := row.maxPlayers
  status := row.status
  members := membersOf db roomId row.members

/-- One of the rows, whichever the database returns first. -/
def findFirst {α : Type*} (rows : List α) (pick : Nat) : Option α := rows[pick % rows.length]?

/-- `status: { in: ['WAITING', 'IN_PROGRESS'] }`. -/
def isActive (status : RoomStatus) : Bool := status = .waiting || status = .inProgress

/-- The active rooms of a player. -/
def memberships (db : LobbyDb) (playerId : String) : List (String × RoomRow) :=
  db.rooms.entries.filter fun room => room.2.members.has playerId && isActive room.2.status

def findByPlayerId (db : LobbyDb) (playerId : String) (pick : Nat) : Option RoomEntity :=
  (findFirst (memberships db playerId) pick).map fun room => mapRoom db room.1 room.2

def rowByCode (db : LobbyDb) (code : String) : Option (String × RoomRow) :=
  db.rooms.entries.find? fun room => room.2.code = code

def findByCode (db : LobbyDb) (code : String) : Option RoomEntity :=
  (rowByCode db code).map fun room => mapRoom db room.1 room.2

def findById (db : LobbyDb) (id : String) : Option RoomEntity :=
  (db.rooms.get id).map (mapRoom db id)

/-- A row of a room that is there, changed. -/
def updateRoom (db : LobbyDb) (roomId : String) (change : RoomRow → RoomRow) : LobbyDb :=
  match db.rooms.get roomId with
  | none => db
  | some row => { db with rooms := db.rooms.set roomId (change row) }

/-- A new room, before its first member. -/
def newRoom (input : CreateRoomInput) : RoomRow where
  code := input.code
  name := input.name
  hostId := input.hostId
  maxPlayers := input.maxPlayers
  status := .waiting
  members := .empty

def newMember (draw : LobbyDraw) : MemberRow := { id := draw.rowId, ready := false, joinedAt := draw.now }

def addTo (playerId : String) (member : MemberRow) (row : RoomRow) : RoomRow :=
  { row with members := row.members.set playerId member }

def removeFrom (playerId : String) (row : RoomRow) : RoomRow :=
  { row with members := row.members.delete playerId }

def setStatus (status : RoomStatus) (row : RoomRow) : RoomRow := { row with status }

def setHost (hostId : String) (row : RoomRow) : RoomRow := { row with hostId }

def setReadyOf (playerId : String) (ready : Bool) (row : RoomRow) : RoomRow :=
  match row.members.get playerId with
  | none => row
  | some member => { row with members := row.members.set playerId { member with ready } }

theorem get_setReadyOf (row : RoomRow) (playerId other : String) (ready : Bool)
    (h : other ≠ playerId) :
    (setReadyOf playerId ready row).members.get other = row.members.get other := by
  unfold setReadyOf
  split
  next => rfl
  next => exact JsMap.get_set_of_ne _ h _

theorem get_setReadyOf_eq_none (row : RoomRow) (playerId other : String) (ready : Bool) :
    (setReadyOf playerId ready row).members.get other = none ↔ row.members.get other = none := by
  by_cases hother : other = playerId
  · subst hother
    unfold setReadyOf
    split
    next => rfl
    next hmember => simp [hmember]
  · rw [get_setReadyOf row playerId other ready hother]

theorem status_setReadyOf (row : RoomRow) (playerId : String) (ready : Bool) :
    (setReadyOf playerId ready row).status = row.status := by
  unfold setReadyOf
  split <;> rfl

theorem hostId_setReadyOf (row : RoomRow) (playerId : String) (ready : Bool) :
    (setReadyOf playerId ready row).hostId = row.hostId := by
  unfold setReadyOf
  split <;> rfl

theorem size_setReadyOf (row : RoomRow) (playerId : String) (ready : Bool) :
    (setReadyOf playerId ready row).members.size = row.members.size := by
  unfold setReadyOf
  split
  next => rfl
  next hmember => exact JsMap.size_set_of_present (by simp [hmember]) _

theorem maxPlayers_setReadyOf (row : RoomRow) (playerId : String) (ready : Bool) :
    (setReadyOf playerId ready row).maxPlayers = row.maxPlayers := by
  unfold setReadyOf
  split <;> rfl

theorem columns_setReadyOf (row : RoomRow) (playerId : String) (ready : Bool) :
    { setReadyOf playerId ready row with members := .empty } = { row with members := .empty } := by
  unfold setReadyOf
  split <;> rfl

/-- What `findUniqueOrThrow` and `update` answer with. -/
def readBack (db : LobbyDb) (roomId : String) : Except Failure (LobbyDb × Option RoomEntity) :=
  match db.rooms.get roomId with
  | none => .error .recordNotFound
  | some row => .ok (db, some (mapRoom db roomId row))

def create (db : LobbyDb) (input : CreateRoomInput) (draw : LobbyDraw) :
    Except Failure (LobbyDb × Option RoomEntity) :=
  if db.rooms.has draw.roomId || (rowByCode db input.code).isSome then .error .uniqueViolation
  else if ¬inInt4 input.maxPlayers then .error .valueOutOfRange
  else if ¬db.usernames.has input.hostId then .error .foreignKeyViolation
  else
    let row := addTo input.hostId (newMember draw) (newRoom input)
    readBack { db with rooms := db.rooms.set draw.roomId row } draw.roomId

/-- The checks of `addMember` on the room it has read. -/
def checkAdd (playerId : String) (room : RoomEntity) : Except Failure Unit :=
  if room.status ≠ .waiting then .error (.app (.conflict "Room is not accepting players"))
  else if room.members.length ≥ room.maxPlayers then .error (.app (.conflict "Room is full"))
  else if room.members.any fun member => member.playerId = playerId then
    .error (.app (.conflict "Already in room"))
  else .ok ()

def addMember (db : LobbyDb) (roomId playerId : String) (draw : LobbyDraw) :
    Except Failure (LobbyDb × Option RoomEntity) := do
  match findById db roomId with
  | none => throw (.app (.notFound "Room"))
  | some room =>
    checkAdd playerId room
    if ¬db.usernames.has playerId then throw .foreignKeyViolation
    readBack (updateRoom db roomId (addTo playerId (newMember draw))) roomId

/-- The player who hosts the room after the leaving one, if there is one. -/
def nextHost (db : LobbyDb) (roomId : String) : Option String :=
  (db.rooms.get roomId).bind fun row =>
    (membersOf db roomId row.members).head?.map RoomMemberEntity.playerId

def removeMember (db : LobbyDb) (roomId playerId : String) :
    Except Failure (LobbyDb × Option RoomEntity) :=
  match db.rooms.get roomId with
  | none => .error (.app (.notFound "Room"))
  | some row =>
    let left := updateRoom db roomId (removeFrom playerId)
    if (row.members.delete playerId).size = 0 then
      .ok (updateRoom left roomId (setStatus .closed), none)
    else if row.hostId = playerId then
      match nextHost left roomId with
      | none => readBack left roomId
      | some hostId => readBack (updateRoom left roomId (setHost hostId)) roomId
    else readBack left roomId

def setReady (db : LobbyDb) (roomId playerId : String) (ready : Bool) :
    Except Failure (LobbyDb × Option RoomEntity) :=
  match (db.rooms.get roomId).bind fun row => row.members.get playerId with
  | none => .error (.app (.notFound "Room membership"))
  | some _ => readBack (updateRoom db roomId (setReadyOf playerId ready)) roomId

def updateStatus (db : LobbyDb) (roomId : String) (status : RoomStatus) :
    Except Failure (LobbyDb × Option RoomEntity) :=
  readBack (updateRoom db roomId (setStatus status)) roomId

def newSession (roomId : String) (member : RoomMemberEntity) (draw : LobbyDraw) : SessionEntity where
  id := draw.rowId
  roomId
  playerId := member.playerId
  status := .active
  username := member.username

/-- Why the insert of a session fails, if it does. -/
def refuseSession (db : LobbyDb) (session : SessionEntity) (draw : LobbyDraw) : Option Failure :=
  match draw.refused with
  | some failure => some failure
  | none =>
    if db.sessions.any fun row => row.id = session.id then some .uniqueViolation
    else if ¬(db.rooms.has session.roomId && db.usernames.has session.playerId) then
      some .foreignKeyViolation
    else none

/-- `SessionRepository.create`. -/
def createSession (db : LobbyDb) (session : SessionEntity) (draw : LobbyDraw) :
    Except Failure LobbyDb :=
  match refuseSession db session draw with
  | some failure => .error failure
  | none => .ok { db with sessions := db.sessions ++ [session] }

end Rooms
end RealtimeGameServer.Source
