import RealtimeGameServer.Source.LobbyAlone

/-!
# What a whole lobby call does to the rooms

A call that runs with nothing in between finds the tables as its own reads have seen
them, so the checks of the service hold where it writes. `Acts` says what a call makes
of the rooms then, with what its checks have found; `finish_acts` derives it from the
repository calls one after the other.
-/
namespace RealtimeGameServer.Source
open Lib Calls Rooms

namespace LobbyService

/-- All members but the host are ready. -/
def OthersReady (row : RoomRow) : Prop :=
  ∀ playerId member, row.members.get playerId = some member → playerId ≠ row.hostId →
    member.ready = true

/-- The player is a member, and none has joined before. -/
def Earliest (members : JsMap String MemberRow) (playerId : String) : Prop :=
  ∃ member, members.get playerId = some member ∧
    ∀ other row, members.get other = some row → member.joinedAt ≤ row.joinedAt

/-- What a call that runs alone makes of the rooms. -/
inductive Acts (db : LobbyDb) : JsMap String RoomRow → Prop
  | same : Acts db db.rooms
  | created {input : CreateRoomInput} {draw : LobbyDraw} (fresh : db.rooms.get draw.roomId = none) :
      Acts db (db.rooms.set draw.roomId (addTo input.hostId (newMember draw) (newRoom input)))
  | joined {roomId playerId : String} {row : RoomRow} {draw : LobbyDraw}
      (found : db.rooms.get roomId = some row) (waiting : row.status = .waiting)
      (absent : row.members.get playerId = none) :
      Acts db (db.rooms.set roomId (addTo playerId (newMember draw) row))
  | closed {roomId playerId : String} {row : RoomRow} (found : db.rooms.get roomId = some row)
      (empty : (row.members.delete playerId).size = 0) :
      Acts db (db.rooms.set roomId (setStatus .closed (removeFrom playerId row)))
  | left {roomId playerId hostId : String} {row : RoomRow} (found : db.rooms.get roomId = some row)
      (others : (row.members.delete playerId).size ≠ 0)
      (host : (row.hostId ≠ playerId ∧ hostId = row.hostId) ∨
        row.hostId = playerId ∧ Earliest (row.members.delete playerId) hostId) :
      Acts db (db.rooms.set roomId (setHost hostId (removeFrom playerId row)))
  | readied {roomId playerId : String} {ready : Bool} {row : RoomRow}
      (found : db.rooms.get roomId = some row) (waiting : row.status = .waiting) :
      Acts db (db.rooms.set roomId (setReadyOf playerId ready row))
  | started {roomId : String} {row : RoomRow} (found : db.rooms.get roomId = some row)
      (waiting : row.status = .waiting) (ready : OthersReady row) :
      Acts db (db.rooms.set roomId (setStatus .inProgress row))

theorem findByPlayerId_eq_some {db : LobbyDb} {playerId : String} {pick : Nat} {room : RoomEntity}
    (h : findByPlayerId db playerId pick = some room) :
    ∃ row, db.rooms.get room.id = some row ∧ room = mapRoom db room.id row := by
  obtain ⟨⟨roomId, row⟩, hfirst, rfl⟩ := Option.map_eq_some_iff.mp h
  have hmem := List.mem_of_getElem? hfirst
  exact ⟨row, (JsMap.get_eq_some _ _ _).mpr (List.mem_filter.mp hmem).1, rfl⟩

theorem checkStart_eq_ok {db : LobbyDb} {playerId roomId : String} {row : RoomRow}
    (h : checkStart playerId (mapRoom db roomId row) = .ok ()) :
    row.status = .waiting ∧ OthersReady row := by
  have hstartable := startable_of_checkStart h
  refine ⟨hstartable.waiting, fun member row' hget hne => ?_⟩
  have hmember : mapMember db roomId (member, row') ∈ (mapRoom db roomId row).members :=
    mem_membersOf.mpr ⟨row', hget, rfl⟩
  exact (hstartable.ready _ hmember).resolve_right hne

/-- The members are read in the order of `joinedAt`. -/
theorem membersOf_sorted (db : LobbyDb) (roomId : String) (members : JsMap String MemberRow) :
    (membersOf db roomId members).Pairwise fun a b => a.joinedAt ≤ b.joinedAt := by
  have total : Std.Total fun a b : RoomMemberEntity => a.joinedAt ≤ b.joinedAt :=
    ⟨fun a b => le_total a.joinedAt b.joinedAt⟩
  have trans : IsTrans RoomMemberEntity fun a b => a.joinedAt ≤ b.joinedAt :=
    ⟨fun _ _ _ => le_trans⟩
  exact List.pairwise_insertionSort _ _

/-- The first of them is the earliest. -/
theorem earliest_of_head {db : LobbyDb} {roomId hostId : String} {members : JsMap String MemberRow}
    (h : (membersOf db roomId members).head?.map RoomMemberEntity.playerId = some hostId) :
    Earliest members hostId := by
  obtain ⟨first, hfirst, rfl⟩ := Option.map_eq_some_iff.mp h
  obtain ⟨rest, hmembers⟩ := List.head?_eq_some_iff.mp hfirst
  have hsorted := membersOf_sorted db roomId members
  have hmem : ∀ m, m ∈ membersOf db roomId members ↔ m = first ∨ m ∈ rest := by
    intro m
    rw [hmembers, List.mem_cons]
  obtain ⟨row, hrow, hsame⟩ := mem_membersOf.mp ((hmem first).mpr (Or.inl rfl))
  refine ⟨row, hrow, fun other row' hother => ?_⟩
  have hjoined : first.joinedAt = row.joinedAt := by rw [← hsame, mapMember]
  have hentry : mapMember db roomId (other, row') ∈ membersOf db roomId members :=
    mem_membersOf.mpr ⟨row', hother, rfl⟩
  rw [hmembers] at hsorted
  rcases (hmem (mapMember db roomId (other, row'))).mp hentry with heq | hrest
  · rw [← hjoined, ← heq, mapMember]
  · rw [← hjoined]
    exact (List.pairwise_cons.mp hsorted).1 _ hrest

theorem create_acts {db : LobbyDb} {input : CreateRoomInput} {draw : LobbyDraw}
    {result : LobbyDb × Option RoomEntity} (h : create db input draw = .ok result) :
    Acts db result.1.rooms := by
  have hchanges := create_changes h
  generalize result.1 = after at hchanges
  cases hchanges with
  | same => exact .same
  | created fresh => exact .created fresh

theorem addMember_acts {db : LobbyDb} {roomId playerId : String} {draw : LobbyDraw}
    {result : LobbyDb × Option RoomEntity} (h : addMember db roomId playerId draw = .ok result) :
    Acts db result.1.rooms := by
  have hchanges := addMember_changes h
  generalize result.1 = after at hchanges
  cases hchanges with
  | same => exact .same
  | joined found waiting _ absent => exact .joined found waiting absent

theorem removeMember_acts {db : LobbyDb} {roomId playerId : String}
    {result : LobbyDb × Option RoomEntity} (h : removeMember db roomId playerId = .ok result) :
    Acts db result.1.rooms := by
  simp only [removeMember] at h
  split at h
  next => cases h
  next row hrow =>
    have hget := (get_withRoom db roomId roomId (removeFrom playerId row)).trans (if_pos rfl)
    -- a leave that is no hand-over writes the host that is there
    have hsame : withRoom db roomId (removeFrom playerId row) =
        withRoom db roomId (setHost row.hostId (removeFrom playerId row)) := rfl
    rw [updateRoom_eq hrow] at h
    split at h
    next hempty =>
      cases h
      rw [updateRoom_withRoom]
      exact .closed hrow hempty
    next hothers =>
      split at h
      next hhost =>
        have hnext : nextHost (withRoom db roomId (removeFrom playerId row)) roomId =
            (membersOf (withRoom db roomId (removeFrom playerId row)) roomId
              (row.members.delete playerId)).head?.map RoomMemberEntity.playerId := by
          rw [nextHost, hget]
          rfl
        split at h
        next hnone =>
          -- there are others, so one of them is the first
          rw [hnext, Option.map_eq_none_iff, List.head?_eq_none_iff] at hnone
          have hlength := length_membersOf (withRoom db roomId (removeFrom playerId row)) roomId
            (row.members.delete playerId)
          rw [hnone] at hlength
          exact absurd hlength.symm hothers
        next hostId hfirst =>
          obtain ⟨updated, -, rfl⟩ := readBack_eq_ok h
          rw [updateRoom_withRoom]
          exact .left hrow hothers (Or.inr ⟨hhost, earliest_of_head (hnext.symm.trans hfirst)⟩)
      next hguest =>
        obtain ⟨updated, -, rfl⟩ := readBack_eq_ok h
        rw [hsame]
        exact .left hrow hothers (Or.inl ⟨hguest, rfl⟩)

theorem setReady_acts {db : LobbyDb} {roomId playerId : String} {ready : Bool} {row : RoomRow}
    {result : LobbyDb × Option RoomEntity} (found : db.rooms.get roomId = some row)
    (waiting : row.status = .waiting) (h : setReady db roomId playerId ready = .ok result) :
    Acts db result.1.rooms := by
  have hchanges := setReady_changes default h
  generalize result.1 = after at hchanges
  cases hchanges with
  | same => exact .same
  | readied found' =>
    cases found.symm.trans found'
    exact .readied found waiting

theorem updateStatus_acts {db : LobbyDb} {room : RoomEntity} {row : RoomRow}
    {result : LobbyDb × Option RoomEntity} (found : db.rooms.get room.id = some row)
    (waiting : row.status = .waiting) (ready : OthersReady row)
    (h : updateStatus db room.id .inProgress = .ok result) : Acts db result.1.rooms := by
  have hchanges := updateStatus_changes default h
  generalize result.1 = after at hchanges
  cases hchanges with
  | same => exact .same
  | started found' =>
    cases found.symm.trans found'
    exact .started found waiting ready

/-- What the service has checked when it comes to a place. -/
def Checked (db : LobbyDb) : Place → Prop
  | .readySet roomId _ _ => ∃ row, db.rooms.get roomId = some row ∧ row.status = .waiting
  | .startUpdateStatus room =>
    ∃ row, db.rooms.get room.id = some row ∧ row.status = .waiting ∧ OthersReady row
  | .startCreateSessions _ _ _ _ => False
  | _ => True

/-- A call that runs alone: it has written nothing until its last repository call, apart
from the sessions that `startGame` inserts after it. -/
def Acting (db : LobbyDb) : Next Place Reply Failure → LobbyDb → Prop
  | .goes (.startCreateSessions _ _ _ _), now => Acts db now.rooms
  | .goes place, now => now = db ∧ Checked db place
  | _, now => Acts db now.rooms

theorem acting_startSessions {db now : LobbyDb} (h : Acts db now.rooms) (roomId : String)
    (remaining : List RoomMemberEntity) (failed : Option Failure) (updated : Reply) :
    Acting db (startSessions roomId remaining failed updated) now := by
  unfold startSessions
  split <;> exact h

theorem settleSession_next (roomId : String) (remaining : List RoomMemberEntity)
    (failed : Option Failure) (updated : Reply) (draw : LobbyDraw) (db : LobbyDb) :
    ∃ remaining' failed', (settleSession roomId remaining failed updated draw db).2 =
      startSessions roomId remaining' failed' updated := by
  unfold settleSession
  split
  next => exact ⟨_, _, rfl⟩
  next => split <;> exact ⟨_, _, rfl⟩

/-- The repository call that is the last one but for sessions. -/
theorem acting_last {db : LobbyDb} {place : Place} {draw : LobbyDraw}
    {result : Except Failure (LobbyDb × Option RoomEntity)}
    (hanswer : ∀ room now, Acts db now.rooms → Acting db (answer place draw room) now)
    (h : ∀ r, result = .ok r → Acts db r.1.rooms) :
    Acting db (repositoryCall place draw db result).2 (repositoryCall place draw db result).1 := by
  cases result with
  | error failure => exact Acts.same
  | ok r => exact hanswer r.2 r.1 (h r rfl)

theorem acting_run {db now : LobbyDb} {place : Place} (draw : LobbyDraw)
    (h : Acting db (.goes place) now) : Acting db (run place draw now).2 (run place draw now).1 := by
  cases place with
  | createFindByPlayer hostId name capacity =>
    obtain ⟨rfl, -⟩ := h
    simp only [run, repositoryCall]
    cases findByPlayerId now hostId draw.pick with
    | none => exact ⟨rfl, trivial⟩
    | some room => exact Acts.same
  | createFindByCode input attempt =>
    obtain ⟨rfl, -⟩ := h
    simp only [run, repositoryCall]
    cases findByCode now input.code with
    | none => exact ⟨rfl, trivial⟩
    | some room =>
      simp only [answer]
      split <;> exact ⟨rfl, trivial⟩
  | createInsert input =>
    obtain ⟨rfl, -⟩ := h
    exact acting_last (fun _ _ h => h) fun _ => create_acts
  | joinFindByPlayer playerId code =>
    obtain ⟨rfl, -⟩ := h
    simp only [run, repositoryCall]
    cases findByPlayerId now playerId draw.pick with
    | none => exact ⟨rfl, trivial⟩
    | some room => exact Acts.same
  | joinFindByCode playerId code =>
    obtain ⟨rfl, -⟩ := h
    simp only [run, repositoryCall]
    cases findByCode now code with
    | none => exact Acts.same
    | some room => exact ⟨rfl, trivial⟩
  | joinAddMember roomId playerId =>
    obtain ⟨rfl, -⟩ := h
    exact acting_last (fun _ _ h => h) fun _ => addMember_acts
  | leaveFindByPlayer playerId =>
    obtain ⟨rfl, -⟩ := h
    simp only [run, repositoryCall]
    cases findByPlayerId now playerId draw.pick with
    | none => exact Acts.same
    | some room => exact ⟨rfl, trivial⟩
  | leaveRemoveMember roomId playerId =>
    obtain ⟨rfl, -⟩ := h
    exact acting_last (fun _ _ h => h) fun _ => removeMember_acts
  | readyFindByPlayer playerId ready =>
    obtain ⟨rfl, -⟩ := h
    simp only [run, repositoryCall]
    cases hfound : findByPlayerId now playerId draw.pick with
    | none => exact Acts.same
    | some room =>
      obtain ⟨row, hrow, hroom⟩ := findByPlayerId_eq_some hfound
      simp only [answer]
      split
      next => exact Acts.same
      next hwaiting =>
        rw [hroom] at hwaiting
        exact ⟨rfl, row, hrow, not_not.mp hwaiting⟩
  | readySet roomId playerId ready =>
    obtain ⟨rfl, row, found, waiting⟩ := h
    exact acting_last (fun _ _ h => h) fun _ => setReady_acts found waiting
  | startFindByPlayer playerId =>
    obtain ⟨rfl, -⟩ := h
    simp only [run, repositoryCall]
    cases hfound : findByPlayerId now playerId draw.pick with
    | none => exact Acts.same
    | some room =>
      obtain ⟨row, hrow, hroom⟩ := findByPlayerId_eq_some hfound
      simp only [answer]
      cases hcheck : checkStart playerId room with
      | error failure => exact Acts.same
      | ok checked =>
        rw [hroom] at hcheck
        obtain ⟨hwaiting, hready⟩ := checkStart_eq_ok hcheck
        exact ⟨rfl, row, hrow, hwaiting, hready⟩
  | startUpdateStatus room =>
    obtain ⟨rfl, row, found, waiting, ready⟩ := h
    exact acting_last (fun _ _ h => acting_startSessions h _ _ _ _)
      fun _ => updateStatus_acts found waiting ready
  | startCreateSessions roomId remaining failed updated =>
    have hrooms : (settleSession roomId remaining failed updated draw now).1.rooms = now.rooms := by
      have hchanges := settleSession_changes roomId remaining failed updated draw now
      generalize (settleSession roomId remaining failed updated draw now).1 = after at hchanges ⊢
      cases hchanges <;> rfl
    obtain ⟨remaining', failed', hnext⟩ := settleSession_next roomId remaining failed updated draw now
    simp only [run]
    rw [hnext]
    refine acting_startSessions ?_ _ _ _ _
    rw [hrooms]
    exact h

theorem acting_opens (maxPlayersPerRoom : Nat) (call : Call) (db : LobbyDb) :
    Acting db (opens maxPlayersPerRoom call) db := by
  cases call with
  | createRoom hostId name maxPlayers =>
    simp only [opens]
    split
    next => exact Acts.same
    next => exact ⟨rfl, trivial⟩
  | _ => exact ⟨rfl, trivial⟩

/-- Everything a call that runs alone can do to the rooms. -/
theorem finish_acts {maxPlayersPerRoom : Nat} {call : Call}
    {draws : List (Except Failure LobbyDraw)} {db db' : LobbyDb} {result : Except Failure Reply}
    (h : finish (program maxPlayersPerRoom) (opens maxPlayersPerRoom call) draws db =
      some (db', result)) : Acts db db'.rooms := by
  have hacting : Acting db (outcome result) db' := by
    refine finish_rule (T := program maxPlayersPerRoom) (I := Acting db) ?_ ?_
      (acting_opens maxPlayersPerRoom call db) h
    · exact fun place draw now hplace => acting_run draw hplace
    · intro place reason now hplace
      cases place with
      | startCreateSessions => exact hplace
      | _ =>
        obtain ⟨rfl, -⟩ := hplace
        exact Acts.same
  cases result with
  | error failure => exact hacting
  | ok reply => exact hacting

end LobbyService
end RealtimeGameServer.Source
