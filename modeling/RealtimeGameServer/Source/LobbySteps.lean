import RealtimeGameServer.Source.LobbyService

/-!
# What the repository calls of the lobby do

`run_changes` says once what a repository call makes of the tables: nothing, a
new room with its host, a new member, the removal of a member with the closing
of the room or a new host, a ready flag, the start of the room, or a session.
-/
namespace RealtimeGameServer.Source
open Lib Calls

namespace LobbyService
open Rooms

/-- The tables with one room as given. -/
def withRoom (db : LobbyDb) (roomId : String) (row : RoomRow) : LobbyDb :=
  { db with rooms := db.rooms.set roomId row }

theorem get_withRoom (db : LobbyDb) (roomId i : String) (row : RoomRow) :
    (withRoom db roomId row).rooms.get i = if i = roomId then some row else db.rooms.get i :=
  JsMap.get_set _ _ _ _

theorem withRoom_withRoom (db : LobbyDb) (roomId : String) (row row' : RoomRow) :
    withRoom (withRoom db roomId row) roomId row' = withRoom db roomId row' := by
  simp only [withRoom, JsMap.set_set]

theorem updateRoom_eq {db : LobbyDb} {roomId : String} {row : RoomRow}
    (found : db.rooms.get roomId = some row) (change : RoomRow → RoomRow) :
    updateRoom db roomId change = withRoom db roomId (change row) := by
  simp only [updateRoom, found, withRoom]

theorem updateRoom_withRoom (db : LobbyDb) (roomId : String) (row : RoomRow)
    (change : RoomRow → RoomRow) :
    updateRoom (withRoom db roomId row) roomId change = withRoom db roomId (change row) := by
  have hget : (withRoom db roomId row).rooms.get roomId = some row :=
    (get_withRoom _ _ _ _).trans (if_pos rfl)
  rw [updateRoom_eq hget, withRoom_withRoom]

theorem readBack_eq_ok {db : LobbyDb} {roomId : String} {result : LobbyDb × Option RoomEntity}
    (h : readBack db roomId = .ok result) : ∃ row, db.rooms.get roomId = some row ∧
      result = (db, some (mapRoom db roomId row)) := by
  unfold readBack at h
  split at h <;> cases h
  next row hrow => exact ⟨row, hrow, rfl⟩

/-- The members of a room, in the order of `joinedAt`, are those of its row. -/
theorem mem_membersOf {db : LobbyDb} {roomId : String} {members : JsMap String MemberRow}
    {member : RoomMemberEntity} : member ∈ membersOf db roomId members ↔
      ∃ row, members.get member.playerId = some row ∧
        mapMember db roomId (member.playerId, row) = member := by
  rw [membersOf, List.mem_insertionSort, List.mem_map]
  constructor
  · rintro ⟨e, he, rfl⟩
    exact ⟨e.2, (JsMap.get_eq_some _ _ _).mpr he, rfl⟩
  · rintro ⟨row, hrow, hmember⟩
    exact ⟨_, (JsMap.get_eq_some _ _ _).mp hrow, hmember⟩

theorem length_membersOf (db : LobbyDb) (roomId : String) (members : JsMap String MemberRow) :
    (membersOf db roomId members).length = members.size := by
  rw [membersOf, List.length_insertionSort, List.length_map, JsMap.size]

inductive Changes (draw : LobbyDraw) (db : LobbyDb) : Place → LobbyDb → Prop
  | same {place} : Changes draw db place db
  | created {input} (fresh : db.rooms.get draw.roomId = none) :
      Changes draw db (.createInsert input)
        (withRoom db draw.roomId (addTo input.hostId (newMember draw) (newRoom input)))
  | joined {roomId playerId row} (found : db.rooms.get roomId = some row)
      (waiting : row.status = .waiting) (space : row.members.size < row.maxPlayers)
      (absent : row.members.get playerId = none) :
      Changes draw db (.joinAddMember roomId playerId)
        (withRoom db roomId (addTo playerId (newMember draw) row))
  | closed {roomId playerId row} (found : db.rooms.get roomId = some row)
      (empty : (row.members.delete playerId).size = 0) :
      Changes draw db (.leaveRemoveMember roomId playerId)
        (withRoom db roomId (setStatus .closed (removeFrom playerId row)))
  | left {roomId playerId row hostId} (found : db.rooms.get roomId = some row)
      (others : (row.members.delete playerId).size ≠ 0)
      (host : hostId = row.hostId ∨ row.hostId = playerId ∧
        nextHost (withRoom db roomId (removeFrom playerId row)) roomId = some hostId) :
      Changes draw db (.leaveRemoveMember roomId playerId)
        (withRoom db roomId (setHost hostId (removeFrom playerId row)))
  | readied {roomId playerId ready row} (found : db.rooms.get roomId = some row) :
      Changes draw db (.readySet roomId playerId ready)
        (withRoom db roomId (setReadyOf playerId ready row))
  | started {room row} (found : db.rooms.get room.id = some row) :
      Changes draw db (.startUpdateStatus room)
        (withRoom db room.id (setStatus .inProgress row))
  | sessionCreated {roomId remaining failed updated member}
      (picked : findFirst remaining draw.pick = some member) :
      Changes draw db (.startCreateSessions roomId remaining failed updated)
        { db with sessions := db.sessions ++ [newSession roomId member draw] }

theorem checkAdd_eq_ok {db : LobbyDb} {roomId playerId : String} {row : RoomRow}
    (h : checkAdd playerId (mapRoom db roomId row) = .ok ()) : row.status = .waiting ∧
      row.members.size < row.maxPlayers ∧ row.members.get playerId = none := by
  unfold checkAdd at h
  split at h
  next => cases h
  next hstatus =>
    split at h
    next => cases h
    next hspace =>
      split at h
      next => cases h
      next habsent =>
        have hlength := length_membersOf db roomId row.members
        simp only [mapRoom, ge_iff_le, not_le] at hspace
        refine ⟨not_not.mp hstatus, hlength ▸ hspace, ?_⟩
        by_contra hmember
        obtain ⟨member, hmember⟩ := Option.ne_none_iff_exists'.mp hmember
        apply habsent
        refine List.any_eq_true.mpr ⟨mapMember db roomId (playerId, member), ?_, ?_⟩
        · exact mem_membersOf.mpr ⟨member, hmember, rfl⟩
        · exact decide_eq_true rfl

theorem create_changes {db : LobbyDb} {input : CreateRoomInput} {draw : LobbyDraw}
    {result : LobbyDb × Option RoomEntity} (h : create db input draw = .ok result) :
    Changes draw db (.createInsert input) result.1 := by
  simp only [create] at h
  split at h
  next => cases h
  next hfree =>
    split at h
    next => cases h
    next =>
      split at h
      next => cases h
      next =>
        obtain ⟨row, -, rfl⟩ := readBack_eq_ok h
        rw [Bool.or_eq_true, not_or] at hfree
        exact .created (by simpa [JsMap.has] using hfree.1)

theorem addMember_changes {db : LobbyDb} {roomId playerId : String} {draw : LobbyDraw}
    {result : LobbyDb × Option RoomEntity} (h : addMember db roomId playerId draw = .ok result) :
    Changes draw db (.joinAddMember roomId playerId) result.1 := by
  unfold addMember at h
  cases hfound : findById db roomId with
  | none =>
    rw [hfound] at h
    cases h
  | some room =>
    rw [hfound] at h
    obtain ⟨row, hrow, rfl⟩ := Option.map_eq_some_iff.mp hfound
    cases hcheck : checkAdd playerId (mapRoom db roomId row) with
    | error failure =>
      simp only [hcheck] at h
      cases h
    | ok =>
      obtain ⟨hwaiting, hspace, habsent⟩ := checkAdd_eq_ok hcheck
      simp only [hcheck, bind, Except.bind] at h
      split at h
      next => cases h
      next =>
        obtain ⟨updated, -, rfl⟩ := readBack_eq_ok h
        rw [updateRoom_eq hrow]
        exact .joined hrow hwaiting hspace habsent

theorem removeMember_changes {db : LobbyDb} {roomId playerId : String} (draw : LobbyDraw)
    {result : LobbyDb × Option RoomEntity} (h : removeMember db roomId playerId = .ok result) :
    Changes draw db (.leaveRemoveMember roomId playerId) result.1 := by
  simp only [removeMember] at h
  split at h
  next => cases h
  next row hrow =>
    rw [updateRoom_eq hrow] at h
    split at h
    next hempty =>
      cases h
      rw [updateRoom_withRoom]
      exact .closed hrow hempty
    next hothers =>
      split at h
      next hhost =>
        split at h
        next =>
          obtain ⟨updated, -, rfl⟩ := readBack_eq_ok h
          exact .left hrow hothers (Or.inl rfl)
        next hostId hnext =>
          obtain ⟨updated, -, rfl⟩ := readBack_eq_ok h
          rw [updateRoom_withRoom]
          exact .left hrow hothers (Or.inr ⟨hhost, hnext⟩)
      next =>
        obtain ⟨updated, -, rfl⟩ := readBack_eq_ok h
        exact .left hrow hothers (Or.inl rfl)

theorem setReady_changes {db : LobbyDb} {roomId playerId : String} {ready : Bool}
    (draw : LobbyDraw) {result : LobbyDb × Option RoomEntity}
    (h : setReady db roomId playerId ready = .ok result) :
    Changes draw db (.readySet roomId playerId ready) result.1 := by
  unfold setReady at h
  split at h
  next => cases h
  next member hmember =>
    obtain ⟨row, hrow, -⟩ := Option.bind_eq_some_iff.mp hmember
    obtain ⟨updated, -, rfl⟩ := readBack_eq_ok h
    rw [updateRoom_eq hrow]
    exact .readied hrow

theorem updateStatus_changes {db : LobbyDb} {room : RoomEntity} (draw : LobbyDraw)
    {result : LobbyDb × Option RoomEntity} (h : updateStatus db room.id .inProgress = .ok result) :
    Changes draw db (.startUpdateStatus room) result.1 := by
  obtain ⟨updated, hupdated, rfl⟩ := readBack_eq_ok h
  cases hrow : db.rooms.get room.id with
  | none =>
    simp only [updateRoom, hrow] at hupdated
    cases hupdated
  | some row =>
    rw [updateRoom_eq hrow]
    exact .started hrow

theorem repositoryCall_changes {place : Place} {draw : LobbyDraw} {db : LobbyDb}
    {result : Except Failure (LobbyDb × Option RoomEntity)}
    (h : ∀ r, result = .ok r → Changes draw db place r.1) :
    Changes draw db place (repositoryCall place draw db result).1 := by
  cases result with
  | error failure => exact .same
  | ok r => exact h r rfl

theorem settleSession_changes (roomId : String) (remaining : List RoomMemberEntity)
    (failed : Option Failure) (updated : Reply) (draw : LobbyDraw) (db : LobbyDb) :
    Changes draw db (.startCreateSessions roomId remaining failed updated)
      (settleSession roomId remaining failed updated draw db).1 := by
  unfold settleSession
  split
  next => exact .same
  next member hpicked =>
    simp only [createSession]
    split
    next heq =>
      split at heq <;> cases heq
      exact .same
    next heq =>
      split at heq <;> cases heq
      exact .sessionCreated hpicked

/-- Everything a repository call can do to the tables. -/
theorem run_changes (place : Place) (draw : LobbyDraw) (db : LobbyDb) :
    Changes draw db place (run place draw db).1 := by
  cases place with
  | createInsert input => exact repositoryCall_changes fun _ h => create_changes h
  | joinAddMember roomId playerId => exact repositoryCall_changes fun _ h => addMember_changes h
  | leaveRemoveMember roomId playerId =>
    exact repositoryCall_changes fun _ h => removeMember_changes draw h
  | readySet roomId playerId ready =>
    exact repositoryCall_changes fun _ h => setReady_changes draw h
  | startUpdateStatus room => exact repositoryCall_changes fun _ h => updateStatus_changes draw h
  | startCreateSessions roomId remaining failed updated =>
    exact settleSession_changes roomId remaining failed updated draw db
  | _ => exact .same

theorem findFirst_eq_none {α : Type*} {rows : List α} {pick : Nat}
    (h : findFirst rows pick = none) : rows = [] := by
  rw [findFirst, List.getElem?_eq_none_iff] at h
  by_contra hsome
  have hpos := List.length_pos_iff.mpr hsome
  have hlt := Nat.mod_lt pick hpos
  omega

/-- What `startGame` has found of the room that it has read. -/
structure Startable (playerId : String) (room : RoomEntity) : Prop where
  host : room.hostId = playerId
  waiting : room.status = .waiting
  ready : ∀ member ∈ room.members, member.ready = true ∨ member.playerId = room.hostId

theorem startable_of_checkStart {playerId : String} {room : RoomEntity}
    (h : checkStart playerId room = .ok ()) : Startable playerId room := by
  unfold checkStart at h
  split at h
  next => cases h
  next hhost =>
    split at h
    next => cases h
    next hwaiting =>
      split at h
      next => cases h
      next =>
        split at h
        next => cases h
        next hall =>
          refine ⟨not_not.mp hhost, not_not.mp hwaiting, fun member hmember => ?_⟩
          have hready := List.all_eq_true.mp (not_not.mp hall) member hmember
          rwa [Bool.or_eq_true, decide_eq_true_eq] at hready

/-- A call gets to its status write from the room that it has read and checked. -/
theorem answer_starts {place : Place} {draw : LobbyDraw} {result : Option RoomEntity}
    {room : RoomEntity} (h : answer place draw result = .goes (.startUpdateStatus room)) :
    ∃ playerId, place = .startFindByPlayer playerId ∧ result = some room ∧
      Startable playerId room := by
  cases place with
  | startFindByPlayer playerId =>
    cases result with
    | none => cases h
    | some found =>
      simp only [answer] at h
      split at h
      next => cases h
      next hcheck =>
        cases h
        exact ⟨playerId, rfl, rfl, startable_of_checkStart hcheck⟩
  | startUpdateStatus | startCreateSessions =>
    simp only [answer, startSessions] at h
    split at h <;> cases h
  | createFindByCode | readyFindByPlayer =>
    cases result with
    | none => cases h
    | some found =>
      simp only [answer] at h
      split at h <;> cases h
  | _ => cases result <;> cases h

/-- The start of a room that is there, and the sessions it goes on with. -/
theorem run_startUpdateStatus {db : LobbyDb} {room : RoomEntity} {row : RoomRow}
    (draw : LobbyDraw) (found : db.rooms.get room.id = some row) :
    run (.startUpdateStatus room) draw db =
      (withRoom db room.id (setStatus .inProgress row),
        startSessions room.id room.members none (some (mapRoom
          (withRoom db room.id (setStatus .inProgress row)) room.id (setStatus .inProgress row)))) := by
  have hget : (withRoom db room.id (setStatus .inProgress row)).rooms.get room.id =
      some (setStatus .inProgress row) := (get_withRoom _ _ _ _).trans (if_pos rfl)
  simp only [run, updateStatus, updateRoom_eq found, readBack, hget, repositoryCall, answer]

/-- The sessions stay where no session is inserted. -/
theorem sessions_run {place : Place} (draw : LobbyDraw) (db : LobbyDb)
    (h : ∀ roomId remaining failed updated,
      place ≠ .startCreateSessions roomId remaining failed updated) :
    (run place draw db).1.sessions = db.sessions := by
  have hchanges := run_changes place draw db
  generalize (run place draw db).1 = db' at hchanges
  cases hchanges with
  | sessionCreated => exact absurd rfl (h _ _ _ _)
  | _ => rfl

end LobbyService
end RealtimeGameServer.Source
