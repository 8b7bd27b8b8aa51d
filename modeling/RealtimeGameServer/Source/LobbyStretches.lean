import RealtimeGameServer.Lib.AtomicCalls
import RealtimeGameServer.Source.LobbySteps
import RealtimeGameServer.Source.LobbyTransactions

/-!
# The repository calls of the lobby, statement by statement

With nothing in between, the statements and commits of a repository call do what the call
does where it is atomic (`stretch_run`): the reads find what one read would find, the checks
pass on what the writes meet, and what has been written is read back. The last session that
a start inserts after one has been refused commits before the call throws.
-/
namespace RealtimeGameServer.Source
open Lib Calls ReadCommitted

namespace LobbyStatements
open Rooms LobbyService

/-- The draws that a call gets. -/
def drawn (call : LobbyService.Call) (draws : List LobbyDraw) : DrawnCall := { call, draws }

/-- Where the statements of the repository call at a place begin. -/
def enter (place : Place) (draws : List LobbyDraw) : Pc := .runs place draws (first place)

section Stretches
variable {maxPlayersPerRoom : Nat} {place : Place} {draw : LobbyDraw} {draws : List LobbyDraw}
  {stage : Stage} {pending : List Effect} {db : LobbyDb}

/-- From this statement on, the call does what it does with the result of the atomic call. -/
def Serves (maxPlayersPerRoom : Nat) (place : Place) (draw : LobbyDraw) (draws : List LobbyDraw)
    (stage : Stage) (pending : List Effect) (db : LobbyDb)
    (result : Except Failure (LobbyDb × Option RoomEntity)) : Prop :=
  Stretch (protocol maxPlayersPerRoom) (.runs place (draw :: draws) stage) pending db
    (repositoryCall place draw db result).1
    ((repositoryCall place draw db result).2.at fun next => enter next draws)

theorem serves_throws {failure : Failure}
    (hrun : runStage place (draw :: draws) stage (pending.foldl apply db) = .throws failure) :
    Serves maxPlayersPerRoom place draw draws stage pending db (.error failure) :=
  .throws rfl hrun

theorem serves_next (effects : List Effect) (stage' : Stage)
    {result : Except Failure (LobbyDb × Option RoomEntity)}
    (hrun : runStage place (draw :: draws) stage (pending.foldl apply db) =
      .continues effects (.runs place (draw :: draws) stage'))
    (rest : Serves maxPlayersPerRoom place draw draws stage' (pending ++ effects) db result) :
    Serves maxPlayersPerRoom place draw draws stage pending db result :=
  .continues rfl hrun rest

/-- A statement that only reads. -/
theorem serves_skip (stage' : Stage) {result : Except Failure (LobbyDb × Option RoomEntity)}
    (hrun : runStage place (draw :: draws) stage (pending.foldl apply db) =
      .continues [] (.runs place (draw :: draws) stage'))
    (rest : Serves maxPlayersPerRoom place draw draws stage' pending db result) :
    Serves maxPlayersPerRoom place draw draws stage pending db result :=
  serves_next [] stage' hrun ((List.append_nil pending).symm ▸ rest)

/-- The last statement of a call. Where the service throws, nothing has been written. -/
theorem stretch_proceed (effects : List Effect) {last : LobbyDb}
    {next : Next Place Reply Failure} (hlast : (pending ++ effects).foldl apply db = last)
    (hrun : runStage place (draw :: draws) stage (pending.foldl apply db) =
      proceed effects draws next)
    (hkept : ∀ failure, next = .throws failure → last = db) :
    Stretch (protocol maxPlayersPerRoom) (.runs place (draw :: draws) stage) pending db last
      (next.at fun next => enter next draws) := by
  cases next with
  | goes next => exact hlast ▸ .continues rfl hrun (.commits rfl)
  | returns reply => exact hlast ▸ .continues rfl hrun (.returns rfl)
  | throws failure =>
    rw [hkept failure rfl]
    exact .throws rfl hrun

/-- The call resolves to a room, or to none. -/
theorem serves_resolve (effects : List Effect) {last : LobbyDb} {room : Option RoomEntity}
    (hlast : (pending ++ effects).foldl apply db = last)
    (hrun : runStage place (draw :: draws) stage (pending.foldl apply db) =
      proceed effects draws (answer place draw room))
    (hkept : ∀ failure, answer place draw room = .throws failure → last = db) :
    Serves maxPlayersPerRoom place draw draws stage pending db (.ok (last, room)) :=
  stretch_proceed effects hlast hrun hkept

theorem serves_readMembers {roomId : String} {row : RoomRow}
    (hrow : (pending.foldl apply db).rooms.get roomId = some row)
    (hkept : ∀ room failure, answer place draw (some room) = .throws failure → pending = []) :
    Serves maxPlayersPerRoom place draw draws (.readMembers roomId row) pending db
      (.ok (pending.foldl apply db, some (mapRoom (pending.foldl apply db) roomId row))) := by
  have hmembers : currentMembers (pending.foldl apply db) roomId = row.members :=
    currentMembers_eq hrow
  have hrun : runStage place (draw :: draws) (.readMembers roomId row) (pending.foldl apply db) =
      proceed [] draws (answer place draw
        (some (mapRoom (pending.foldl apply db) roomId row))) := by
    simp only [runStage, hmembers]
    rfl
  refine serves_resolve [] (congrArg _ (List.append_nil pending)) hrun fun failure hthrows => ?_
  rw [hkept _ failure hthrows]
  rfl

theorem serves_reread {roomId : String}
    (hkept : ∀ room failure, answer place draw (some room) = .throws failure → pending = []) :
    Serves maxPlayersPerRoom place draw draws (.reread roomId) pending db
      (readBack (pending.foldl apply db) roomId) := by
  unfold readBack
  split
  next hrow => exact serves_throws (by simp only [runStage, hrow])
  next row hrow =>
    exact serves_skip (.readMembers roomId row) (by simp only [runStage, hrow])
      (serves_readMembers hrow hkept)

theorem serves_findMembership (playerId : String) :
    Serves maxPlayersPerRoom place draw draws (.findMembership playerId) [] db
      (.ok (db, findByPlayerId db playerId draw.pick)) := by
  unfold findByPlayerId
  cases hfirst : findFirst (memberships db playerId) draw.pick with
  | none =>
    refine serves_resolve [] rfl ?_ fun _ _ => rfl
    simp only [runStage, List.foldl_nil, List.headD_cons, hfirst]
    rfl
  | some room =>
    obtain ⟨roomId, row⟩ := room
    have hrow : db.rooms.get roomId = some row :=
      (JsMap.get_eq_some _ _ _).mpr (List.mem_filter.mp (List.mem_of_getElem? hfirst)).1
    refine serves_skip (.findMembershipRoom roomId) ?_ ?_
    · simp only [runStage, List.foldl_nil, List.headD_cons, hfirst]
    · refine serves_skip (.readMembers roomId row) ?_ ?_
      · simp only [runStage, List.foldl_nil, hrow]
      · exact serves_readMembers hrow fun _ _ _ => rfl

theorem serves_findByCode (code : String) :
    Serves maxPlayersPerRoom place draw draws (.findByCode code) [] db
      (.ok (db, findByCode db code)) := by
  unfold findByCode
  cases hfound : rowByCode db code with
  | none =>
    refine serves_resolve [] rfl ?_ fun _ _ => rfl
    simp only [runStage, List.foldl_nil, hfound]
    rfl
  | some room =>
    obtain ⟨roomId, row⟩ := room
    have hrow : db.rooms.get roomId = some row :=
      (JsMap.get_eq_some _ _ _).mpr (List.mem_of_find?_eq_some hfound)
    refine serves_skip (.readMembers roomId row) ?_ ?_
    · simp only [runStage, List.foldl_nil, hfound]
    · exact serves_readMembers hrow fun _ _ _ => rfl

/-- The service returns what the repository call at this place resolves to. -/
def Returning (place : Place) (draw : LobbyDraw) : Prop :=
  ∀ room, answer place draw room = .returns room

theorem Returning.kept (h : Returning place draw) (room : Option RoomEntity) (failure : Failure)
    {p : Prop} (hthrows : answer place draw room = .throws failure) : p := by
  rw [h room] at hthrows
  cases hthrows

/-- The insert of a row for a member who has none, and the room read back. -/
theorem serves_insertMember (h : Returning place draw) {roomId playerId : String} {row : RoomRow}
    (hrow : (pending.foldl apply db).rooms.get roomId = some row)
    (habsent : row.members.get playerId = none)
    (hrun : runStage place (draw :: draws) stage (pending.foldl apply db) =
      insertMember (pending.foldl apply db) roomId playerId (newMember draw)
        (.runs place (draw :: draws) (.reread roomId))) :
    Serves maxPlayersPerRoom place draw draws stage pending db
      (if ¬(pending.foldl apply db).usernames.has playerId then .error .foreignKeyViolation
        else readBack (updateRoom (pending.foldl apply db) roomId
          (addTo playerId (newMember draw))) roomId) := by
  have hmember : memberAt (pending.foldl apply db) roomId playerId = none := by
    rw [memberAt, hrow]
    exact habsent
  have hroom : (pending.foldl apply db).rooms.has roomId = true := by
    rw [JsMap.has, hrow, Option.isSome_some]
  simp only [insertMember, hmember, hroom, Option.isSome_none, Bool.true_and, Bool.false_eq_true,
    if_false] at hrun
  split at hrun
  next hunknown =>
    rw [if_pos hunknown]
    exact serves_throws hrun
  next hknown =>
    rw [if_neg hknown]
    have hview : (pending ++ [Effect.insertMember roomId playerId (newMember draw)]).foldl apply db =
        updateRoom (pending.foldl apply db) roomId (addTo playerId (newMember draw)) :=
      List.foldl_append
    rw [← hview]
    exact serves_next _ _ hrun (serves_reread fun room failure => h.kept (some room) failure)

theorem serves_createRoomRow (h : Returning place draw) (input : CreateRoomInput) :
    Serves maxPlayersPerRoom place draw draws (.createRoomRow input) [] db
      (create db input draw) := by
  have hrun : runStage place (draw :: draws) (.createRoomRow input) db =
      if db.rooms.has draw.roomId || (rowByCode db input.code).isSome then .throws .uniqueViolation
      else if ¬inInt4 input.maxPlayers then .throws .valueOutOfRange
      else .continues [.insertRoom draw.roomId input]
        (.runs place (draw :: draws) (.createHostRow input)) := rfl
  unfold create
  split at hrun
  next htaken =>
    rw [if_pos htaken]
    exact serves_throws hrun
  next hfree =>
    rw [if_neg hfree]
    split at hrun
    next hrange =>
      rw [if_pos hrange]
      exact serves_throws hrun
    next hrange =>
      rw [if_neg hrange]
      have hfresh : db.rooms.has draw.roomId = false :=
        (Bool.or_eq_false_iff.mp (Bool.eq_false_iff.mpr hfree)).1
      have hview : [Effect.insertRoom draw.roomId input].foldl apply db =
          withRoom db draw.roomId (newRoom input) := by
        simp only [List.foldl_cons, List.foldl_nil, apply, hfresh, Bool.false_eq_true, if_false,
          withRoom]
      refine serves_next _ _ hrun ?_
      have hnew : ([Effect.insertRoom draw.roomId input].foldl apply db).rooms.get draw.roomId =
          some (newRoom input) := by rw [hview, get_withRoom, if_pos rfl]
      have hhost : Serves maxPlayersPerRoom place draw draws (.createHostRow input)
          [.insertRoom draw.roomId input] db _ := serves_insertMember h hnew rfl rfl
      rw [hview, updateRoom_withRoom] at hhost
      exact hhost

/-- The row of the room that a lookup by id has found. -/
theorem findById_eq {roomId : String} {row : RoomRow} (hrow : db.rooms.get roomId = some row) :
    findById db roomId = some (mapRoom db roomId row) := by
  rw [findById, hrow]
  rfl

theorem serves_addFind (h : Returning place draw) (roomId playerId : String) :
    Serves maxPlayersPerRoom place draw draws (.addFind roomId playerId) [] db
      (addMember db roomId playerId draw) := by
  cases hrow : db.rooms.get roomId with
  | none =>
    have hadd : addMember db roomId playerId draw = .error (.app (.notFound "Room")) := by
      rw [addMember, findById, hrow]
      rfl
    rw [hadd]
    exact serves_throws (by simp only [runStage, List.foldl_nil, hrow])
  | some row =>
    refine serves_skip (.addFindMembers roomId playerId row)
      (by simp only [runStage, List.foldl_nil, hrow]) ?_
    have hmembers : currentMembers db roomId = row.members := currentMembers_eq hrow
    cases hcheck : checkAdd playerId (mapRoom db roomId row) with
    | error failure =>
      have hadd : addMember db roomId playerId draw = .error failure := by
        simp only [addMember, findById_eq hrow, hcheck]
        rfl
      rw [hadd]
      refine serves_throws ?_
      simp only [runStage, List.foldl_nil, hmembers, hcheck]
    | ok =>
      have hadd : addMember db roomId playerId draw =
          if ¬db.usernames.has playerId then .error .foreignKeyViolation
          else readBack (updateRoom db roomId (addTo playerId (newMember draw))) roomId := by
        simp only [addMember, findById_eq hrow, hcheck]
        split <;> rfl
      obtain ⟨-, -, habsent⟩ := checkAdd_eq_ok hcheck
      rw [hadd]
      refine serves_skip (.addInsert roomId playerId) ?_ ?_
      · simp only [runStage, List.foldl_nil, hmembers, hcheck]
      · exact serves_insertMember h hrow habsent rfl

/-- The deletion of a row that may not be there. -/
theorem foldl_deletes (db : LobbyDb) (roomId playerId : String) :
    (deletes db roomId playerId).foldl apply db = updateRoom db roomId (removeFrom playerId) := by
  unfold deletes
  split
  next => rfl
  next habsent =>
    unfold updateRoom
    split
    next => rfl
    next row hrow =>
      have hnone : row.members.get playerId = none := by
        rw [memberAt, hrow] at habsent
        exact Option.not_isSome_iff_eq_none.mp habsent
      have hsame : removeFrom playerId row = row := by
        rw [removeFrom, (JsMap.delete_eq_self _ _).mpr hnone]
      rw [hsame, (JsMap.set_eq_self _ _ _).mpr hrow]
      rfl

/-- The end of `removeMember` where the host has left and others remain. -/
def handOver (left : LobbyDb) (roomId : String) : Except Failure (LobbyDb × Option RoomEntity) :=
  match nextHost left roomId with
  | none => readBack left roomId
  | some hostId => readBack (updateRoom left roomId (setHost hostId)) roomId

/-- What `removeMember` does once the member's row is deleted. -/
def afterRemoval (left : LobbyDb) (roomId playerId hostId : String) :
    Except Failure (LobbyDb × Option RoomEntity) :=
  if (currentMembers left roomId).size = 0 then
    .ok (updateRoom left roomId (setStatus .closed), none)
  else if hostId = playerId then handOver left roomId
  else readBack left roomId

theorem removeMember_eq {roomId playerId : String} {row : RoomRow}
    (hrow : db.rooms.get roomId = some row) : removeMember db roomId playerId =
      afterRemoval (updateRoom db roomId (removeFrom playerId)) roomId playerId row.hostId := by
  have hleft : currentMembers (updateRoom db roomId (removeFrom playerId)) roomId =
      row.members.delete playerId := currentMembers_eq (get_updateRoom_self hrow _)
  rw [afterRemoval, hleft, removeMember, hrow]
  rfl

theorem serves_removeFindHost (h : Returning place draw) {roomId : String}
    (hroom : (pending.foldl apply db).rooms.has roomId = true) :
    Serves maxPlayersPerRoom place draw draws (.removeFindHost roomId) pending db
      (handOver (pending.foldl apply db) roomId) := by
  unfold handOver
  cases hnext : nextHost (pending.foldl apply db) roomId with
  | none =>
    exact serves_skip (.reread roomId) (by simp only [runStage, hnext])
      (serves_reread fun room failure => h.kept (some room) failure)
  | some hostId =>
    have hhosted : (pending ++ [Effect.setHost roomId hostId]).foldl apply db =
        updateRoom (pending.foldl apply db) roomId (setHost hostId) := List.foldl_append
    refine serves_skip (.removeSetHost roomId hostId) (by simp only [runStage, hnext]) ?_
    refine serves_next [.setHost roomId hostId] (.reread roomId) ?_ ?_
    · simp only [runStage, hroom, if_true]
    · dsimp only
      rw [← hhosted]
      exact serves_reread fun room failure => h.kept (some room) failure

theorem serves_removeCount (h : Returning place draw) {roomId playerId hostId : String}
    (hroom : (pending.foldl apply db).rooms.has roomId = true) :
    Serves maxPlayersPerRoom place draw draws (.removeCount roomId playerId hostId) pending db
      (afterRemoval (pending.foldl apply db) roomId playerId hostId) := by
  have hcount : runStage place (draw :: draws) (.removeCount roomId playerId hostId)
      (pending.foldl apply db) =
      if (currentMembers (pending.foldl apply db) roomId).size = 0 then
        .continues [] (.runs place (draw :: draws) (.removeClose roomId))
      else if hostId = playerId then
        .continues [] (.runs place (draw :: draws) (.removeFindHost roomId))
      else .continues [] (.runs place (draw :: draws) (.reread roomId)) := rfl
  unfold afterRemoval
  split at hcount
  next hempty =>
    rw [if_pos hempty]
    refine serves_skip (.removeClose roomId) hcount ?_
    refine serves_resolve [.setStatus roomId .closed] List.foldl_append ?_ fun failure =>
      h.kept none failure
    simp only [runStage, hroom, if_true, List.tail_cons, List.headD_cons]
  next hothers =>
    rw [if_neg hothers]
    split at hcount
    next hhost =>
      rw [if_pos hhost]
      exact serves_skip (.removeFindHost roomId) hcount (serves_removeFindHost h hroom)
    next hother =>
      rw [if_neg hother]
      exact serves_skip (.reread roomId) hcount
        (serves_reread fun room failure => h.kept (some room) failure)

theorem serves_removeFind (h : Returning place draw) (roomId playerId : String) :
    Serves maxPlayersPerRoom place draw draws (.removeFind roomId playerId) [] db
      (removeMember db roomId playerId) := by
  cases hrow : db.rooms.get roomId with
  | none =>
    have hremove : removeMember db roomId playerId = .error (.app (.notFound "Room")) := by
      rw [removeMember, hrow]
    rw [hremove]
    exact serves_throws (by simp only [runStage, List.foldl_nil, hrow])
  | some row =>
    have hthere : (updateRoom db roomId (removeFrom playerId)).rooms.has roomId = true := by
      rw [JsMap.has, get_updateRoom_self hrow, Option.isSome_some]
    have hview := foldl_deletes db roomId playerId
    rw [removeMember_eq hrow, ← hview]
    refine serves_skip (.removeDelete roomId playerId row.hostId)
      (by simp only [runStage, List.foldl_nil, hrow]) ?_
    refine serves_next (deletes db roomId playerId) (.removeCount roomId playerId row.hostId) rfl ?_
    exact serves_removeCount h (hview.symm ▸ hthere)

theorem serves_updateStatus (h : ∀ room failure, answer place draw (some room) ≠ .throws failure)
    (roomId : String) (status : RoomStatus) :
    Serves maxPlayersPerRoom place draw draws (.updateStatus roomId status) [] db
      (updateStatus db roomId status) := by
  unfold updateStatus
  cases hrow : db.rooms.get roomId with
  | none =>
    have hread : readBack (updateRoom db roomId (setStatus status)) roomId =
        .error .recordNotFound := by
      simp only [updateRoom, hrow, readBack]
    rw [hread]
    refine serves_throws ?_
    simp only [runStage, List.foldl_nil, JsMap.has, hrow, Option.isSome_none, Bool.false_eq_true,
      if_false]
  | some row =>
    refine serves_next [.setStatus roomId status] (.reread roomId) ?_ ?_
    · simp only [runStage, List.foldl_nil, JsMap.has, hrow, Option.isSome_some, if_true]
    · exact serves_reread fun room failure hthrows => absurd hthrows (h room failure)

theorem serves_readyFind (h : Returning place draw) (roomId playerId : String) (ready : Bool) :
    Serves maxPlayersPerRoom place draw draws (.readyFind roomId playerId ready) [] db
      (setReady db roomId playerId ready) := by
  unfold setReady
  cases hmember : memberAt db roomId playerId with
  | none =>
    have hnone : ((db.rooms.get roomId).bind fun row => row.members.get playerId) = none := hmember
    rw [hnone]
    exact serves_throws (by simp only [runStage, List.foldl_nil, hmember])
  | some member =>
    have hsome : ((db.rooms.get roomId).bind fun row => row.members.get playerId) = some member :=
      hmember
    obtain ⟨row, hrow, -⟩ := Option.bind_eq_some_iff.mp hsome
    have hthere : (updateRoom db roomId (setReadyOf playerId ready)).rooms.get roomId =
        some (setReadyOf playerId ready row) := get_updateRoom_self hrow _
    have hfind : runStage place (draw :: draws) (.readyFind roomId playerId ready) db =
        .continues [] (.commits place (draw :: draws)
          (.readyUpdate roomId playerId ready member.id)) := by
      simp only [runStage, hmember]
    have hsame : membershipAt db roomId playerId member.id = some member := by
      rw [membershipAt, hmember]
      exact Option.filter_some_pos (decide_eq_true rfl)
    have hupdate : runStage place (draw :: draws) (.readyUpdate roomId playerId ready member.id) db =
        .continues [.setReady roomId playerId ready]
          (.commits place (draw :: draws) (.reread roomId)) := by
      simp only [runStage, hsame]
    have hread : Serves maxPlayersPerRoom place draw draws (.reread roomId) []
        (updateRoom db roomId (setReadyOf playerId ready)) _ :=
      serves_reread fun room failure => h.kept (some room) failure
    rw [hsome]
    unfold readBack at hread ⊢
    simp only [List.foldl_nil, hthere] at hread ⊢
    -- the update is a transaction of its own, and so are the reads
    exact .continues rfl hfind (.goesOn rfl (.continues rfl hupdate (.goesOn rfl hread)))

/-- A start throws once all its sessions have settled and one has been refused. -/
theorem startSessions_eq_throws {roomId : String} {remaining : List RoomMemberEntity}
    {failed : Option Failure} {updated : Reply} {failure : Failure}
    (h : startSessions roomId remaining failed updated = .throws failure) :
    remaining = [] ∧ failed = some failure := by
  unfold startSessions at h
  split at h <;> cases h
  exact ⟨rfl, rfl⟩

theorem stretch_insertSession (roomId : String) (remaining : List RoomMemberEntity)
    (failed : Option Failure) (updated : Reply) :
    Stretch (protocol maxPlayersPerRoom) (.runs place (draw :: draws)
        (.insertSession roomId remaining failed updated)) [] db
      (LobbyService.settleSession roomId remaining failed updated draw db).1
      ((LobbyService.settleSession roomId remaining failed updated draw db).2.at
        fun next => enter next draws) := by
  unfold LobbyService.settleSession
  cases hfirst : findFirst remaining draw.pick with
  | none =>
    refine stretch_proceed [] rfl ?_ fun _ _ => rfl
    simp only [runStage, settleSession, List.headD_cons, hfirst]
    rfl
  | some member =>
    simp only [createSession]
    cases hrefused : refuseSession db (newSession roomId member draw) draw with
    | some failure =>
      refine stretch_proceed [] rfl ?_ fun _ _ => rfl
      simp only [runStage, settleSession, List.headD_cons, hfirst, List.foldl_nil, hrefused]
      rfl
    | none =>
      cases hnext : startSessions roomId (remaining.eraseIdx (draw.pick % remaining.length)) failed
          updated with
      | throws failure =>
        -- nothing remains, so the statement after the commit throws
        obtain ⟨hrest, rfl⟩ := startSessions_eq_throws hnext
        rw [hrest] at hnext
        have hinsert : runStage place (draw :: draws) (.insertSession roomId remaining (some failure)
            updated) ([].foldl apply db) = .continues [.insertSession (newSession roomId member draw)]
              (.commits (.startCreateSessions roomId [] (some failure) updated) draws
                (.insertSession roomId [] (some failure) updated)) := by
          simp only [runStage, settleSession, List.headD_cons, hfirst, List.foldl_nil, hrefused,
            hrest, hnext]
          rfl
        have hthrows : Stretch (protocol maxPlayersPerRoom) (.runs place (draw :: draws)
            (.insertSession roomId remaining (some failure) updated)) [] db
            (apply db (.insertSession (newSession roomId member draw))) (.throws failure) :=
          .continues rfl hinsert (.goesOn rfl (.throws rfl rfl))
        rw [hrest]
        exact hthrows
      | goes next | returns reply =>
        refine stretch_proceed [.insertSession (newSession roomId member draw)] rfl ?_
          fun _ hthrows => by cases hthrows
        simp only [runStage, settleSession, List.headD_cons, hfirst, List.foldl_nil, hrefused, hnext]
        rfl

/-- The statements of a repository call do what the call does. -/
theorem stretch_run (place : Place) :
    Stretch (protocol maxPlayersPerRoom) (enter place (draw :: draws)) [] db
      (LobbyService.run place draw db).1
      ((LobbyService.run place draw db).2.at fun next => enter next draws) := by
  cases place with
  | createFindByPlayer hostId name capacity => exact serves_findMembership hostId
  | createFindByCode input attempt => exact serves_findByCode input.code
  | createInsert input => exact serves_createRoomRow (fun _ => rfl) input
  | joinFindByPlayer playerId code => exact serves_findMembership playerId
  | joinFindByCode playerId code => exact serves_findByCode code
  | joinAddMember roomId playerId => exact serves_addFind (fun _ => rfl) roomId playerId
  | leaveFindByPlayer playerId => exact serves_findMembership playerId
  | leaveRemoveMember roomId playerId => exact serves_removeFind (fun _ => rfl) roomId playerId
  | readyFindByPlayer playerId ready => exact serves_findMembership playerId
  | readySet roomId playerId ready => exact serves_readyFind (fun _ => rfl) roomId playerId ready
  | startFindByPlayer playerId => exact serves_findMembership playerId
  | startUpdateStatus room =>
    refine serves_updateStatus (fun updated failure hthrows => ?_) room.id .inProgress
    cases (startSessions_eq_throws hthrows).2
  | startCreateSessions roomId remaining failed updated =>
    exact stretch_insertSession roomId remaining failed updated

/-- The statements of the lobby implement its atomic repository calls. -/
theorem implements (maxPlayersPerRoom : Nat) :
    Implements (protocol maxPlayersPerRoom) (LobbyService.program maxPlayersPerRoom) drawn
      enter where
  opens call draw draws := by
    have hopens : ∀ {result : Except Failure Pc}, opens maxPlayersPerRoom (drawn call draws) = result →
        (protocol maxPlayersPerRoom).opens (drawn call draws) = result := id
    have hprogram : (LobbyService.program maxPlayersPerRoom).opens call draw =
        LobbyService.opens maxPlayersPerRoom call := rfl
    rw [hprogram]
    cases hnext : LobbyService.opens maxPlayersPerRoom call with
    | goes place => exact hopens (by simp only [opens, drawn, hnext, enter])
    | returns reply =>
      exact ⟨.done reply, hopens (by simp only [opens, drawn, hnext]), rfl⟩
    | throws failure => exact hopens (by simp only [opens, drawn, hnext])
  run place draw draws db := stretch_run place

end Stretches
end LobbyStatements
end RealtimeGameServer.Source
