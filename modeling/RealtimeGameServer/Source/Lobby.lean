import RealtimeGameServer.Source.AppError

/-!
# Rooms and the lobby lookup

Source: domain/entities/room.ts and application/services/lobby-service.ts:73-79.
Timestamps are not represented except `joinedAt`, which orders the members.
-/
namespace RealtimeGameServer.Source

inductive RoomStatus where
  | waiting | inProgress | closed
  deriving DecidableEq, Repr

structure RoomMemberEntity where
  id : String
  roomId : String
  playerId : String
  username : String
  ready : Bool
  joinedAt : Int
  deriving DecidableEq, Repr

structure RoomEntity where
  id : String
  code : String
  name : String
  hostId : String
  maxPlayers : Nat
  status : RoomStatus
  members : List RoomMemberEntity
  deriving DecidableEq, Repr

/-- `LobbyService.getRoom`, from what `rooms.findById` resolved to. -/
def getRoom (found : Option RoomEntity) : Except AppError RoomEntity :=
  match found with
  | none => .error (.notFound "Room")
  | some room => .ok room

end RealtimeGameServer.Source
