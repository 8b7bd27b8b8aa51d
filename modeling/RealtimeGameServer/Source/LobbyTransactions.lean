import RealtimeGameServer.Source.LobbyStatements

/-!
# What the lobby's transactions write

`runStage_continues` says once what each statement does. From it follows what a
transaction has written when it commits (`Written`): nothing, a room with its
host, one member, the removal of a member with the closing of the room or a new
host, a ready flag, a status or a session. The rows a lock protects are as the
transaction found them (`rule`).
-/
namespace RealtimeGameServer.Source
open Lib Calls ReadCommitted

namespace LobbyStatements
open Rooms LobbyService

abbrev ActiveCall := Active Effect Lock DrawnCall Pc

abbrev LobbyEvent := ReadCommitted.Event DrawnCall Failure

theorem get_updateRoom (db : LobbyDb) (roomId i : String) (change : RoomRow → RoomRow) :
    (updateRoom db roomId change).rooms.get i =
      if i = roomId then (db.rooms.get i).map change else db.rooms.get i := by
  cases hrow : db.rooms.get roomId with
  | none =>
    simp only [updateRoom, hrow]
    split
    next heq => rw [heq, hrow, Option.map_none]
    next => rfl
  | some row =>
    simp only [updateRoom, hrow, JsMap.get_set]
    split
    next heq => rw [heq, hrow, Option.map_some]
    next => rfl

theorem get_updateRoom_self {db : LobbyDb} {roomId : String} {row : RoomRow}
    (hrow : db.rooms.get roomId = some row) (change : RoomRow → RoomRow) :
    (updateRoom db roomId change).rooms.get roomId = some (change row) := by
  rw [get_updateRoom, if_pos rfl, hrow, Option.map_some]

theorem currentMembers_eq {db : LobbyDb} {roomId : String} {row : RoomRow}
    (hrow : db.rooms.get roomId = some row) : currentMembers db roomId = row.members := by
  rw [currentMembers, hrow]
  rfl

theorem memberAt_updateRoom (db : LobbyDb) (roomId i playerId : String)
    (change : RoomRow → RoomRow) : memberAt (updateRoom db roomId change) i playerId =
      if i = roomId then (db.rooms.get i).bind fun row => (change row).members.get playerId
      else memberAt db i playerId := by
  rw [memberAt, get_updateRoom]
  split
  next => rw [Option.bind_map, Function.comp_def]
  next => rfl

/-- The row an effect writes. -/
def touches : Effect → Lock
  | .insertRoom roomId _ => .room roomId
  | .insertMember roomId playerId _ => .member roomId playerId
  | .deleteMember roomId playerId => .member roomId playerId
  | .setReady roomId playerId _ => .member roomId playerId
  | .setStatus roomId _ => .room roomId
  | .setHost roomId _ => .room roomId
  | .insertSession session => .session session.id

/-- What a lock protects: the columns of a room, or the row of a member. -/
def part (lock : Lock) (db : LobbyDb) : Option RoomRow × Option MemberRow :=
  match lock with
  | .room roomId => ((db.rooms.get roomId).map fun row => { row with members := .empty }, none)
  | .member roomId playerId => (none, memberAt db roomId playerId)
  | _ => (none, none)

/-- An update of a room that keeps the columns leaves what a room lock protects. -/
theorem part_room_update {db : LobbyDb} {roomId i : String} {change : RoomRow → RoomRow}
    (h : i ≠ roomId ∨ ∀ row, { change row with members := .empty } = { row with members := .empty }) :
    part (.room i) (updateRoom db roomId change) = part (.room i) db := by
  simp only [part, get_updateRoom]
  split
  next heq =>
    rcases h with hne | hcolumns
    · exact absurd heq hne
    · cases db.rooms.get i with
      | none => rfl
      | some row => simp only [Option.map_some, hcolumns row]
  next => rfl

/-- An update of a room that keeps a member's row leaves what the member's lock
protects. -/
theorem part_member_update {db : LobbyDb} {roomId i playerId : String} {change : RoomRow → RoomRow}
    (h : i ≠ roomId ∨ ∀ row, (change row).members.get playerId = row.members.get playerId) :
    part (.member i playerId) (updateRoom db roomId change) = part (.member i playerId) db := by
  simp only [part, memberAt_updateRoom]
  split
  next heq =>
    rcases h with hne | hmember
    · exact absurd heq hne
    · simp only [memberAt, hmember]
  next => rfl

theorem frame (db : LobbyDb) (effect : Effect) (lock : Lock) (h : touches effect ≠ lock) :
    part lock (apply db effect) = part lock db := by
  cases lock with
  | code code => rfl
  | session id => rfl
  | room i =>
    cases effect with
    | insertRoom roomId input =>
      have hne : i ≠ roomId := fun heq => h (by rw [heq, touches])
      simp only [apply]
      split
      next => rfl
      next => simp only [part, JsMap.get_set_of_ne _ hne]
    | insertMember roomId playerId member => exact part_room_update (Or.inr fun _ => rfl)
    | deleteMember roomId playerId => exact part_room_update (Or.inr fun _ => rfl)
    | setReady roomId playerId ready =>
      exact part_room_update (Or.inr fun row => columns_setReadyOf row playerId ready)
    | setStatus roomId status =>
      exact part_room_update (Or.inl fun heq => h (by rw [heq, touches]))
    | setHost roomId hostId =>
      exact part_room_update (Or.inl fun heq => h (by rw [heq, touches]))
    | insertSession session => rfl
  | member i other =>
    -- an effect on the room's members is on another room or another player
    have hother : ∀ roomId playerId, Lock.member roomId playerId ≠ .member i other →
        i ≠ roomId ∨ other ≠ playerId := by
      intro roomId playerId hne
      by_contra hboth
      rw [not_or, not_not, not_not] at hboth
      exact hne (by rw [hboth.1, hboth.2])
    cases effect with
    | insertRoom roomId input =>
      simp only [apply]
      split
      next => rfl
      next habsent =>
        simp only [part, memberAt, JsMap.get_set]
        split
        next heq =>
          have hnone : db.rooms.get i = none := by
            rw [heq]
            simpa [JsMap.has] using habsent
          rw [hnone]
          rfl
        next => rfl
    | insertMember roomId playerId member =>
      exact part_member_update ((hother roomId playerId h).imp_right fun hne _ =>
        JsMap.get_set_of_ne _ hne _)
    | deleteMember roomId playerId =>
      exact part_member_update ((hother roomId playerId h).imp_right fun hne _ => by
        rw [removeFrom, JsMap.get_delete, if_neg hne])
    | setReady roomId playerId ready =>
      exact part_member_update ((hother roomId playerId h).imp_right fun hne row =>
        get_setReadyOf row playerId other ready hne)
    | setStatus roomId status => exact part_member_update (Or.inr fun _ => rfl)
    | setHost roomId hostId => exact part_member_update (Or.inr fun _ => rfl)
    | insertSession session => rfl

/-- The capacity of a room about to be created. -/
def PlaceOk : Place → Prop
  | .createFindByPlayer _ _ capacity => 2 ≤ capacity
  | .createFindByCode input _ => 2 ≤ input.maxPlayers
  | .createInsert input => 2 ≤ input.maxPlayers
  | _ => True

theorem opens_ok {maxPlayersPerRoom : Nat} {call : LobbyService.Call} {place : Place}
    (h : LobbyService.opens maxPlayersPerRoom call = .goes place) : PlaceOk place := by
  cases call with
  | createRoom hostId name maxPlayers =>
    simp only [LobbyService.opens] at h
    split at h
    next => cases h
    next hcapacity =>
      cases h
      simp only [Bool.or_eq_true, decide_eq_true_eq, not_or, not_lt] at hcapacity
      exact hcapacity.1
  | _ =>
    cases h
    trivial

theorem startSessions_ok {roomId : String} {remaining : List RoomMemberEntity}
    {failed : Option Failure} {updated : Reply} {next : Place}
    (h : startSessions roomId remaining failed updated = .goes next) : PlaceOk next := by
  unfold startSessions at h
  split at h <;> cases h
  trivial

theorem answer_ok {place next : Place} {draw : LobbyDraw} {result : Option RoomEntity}
    (hplace : PlaceOk place) (h : answer place draw result = .goes next) : PlaceOk next := by
  cases place with
  | createFindByPlayer hostId name capacity =>
    cases result with
    | none =>
      cases h
      exact hplace
    | some room => cases h
  | createFindByCode input attempt =>
    cases result with
    | none =>
      cases h
      exact hplace
    | some room =>
      simp only [answer] at h
      split at h <;> cases h <;> exact hplace
  | readyFindByPlayer playerId ready =>
    cases result with
    | none => cases h
    | some room =>
      simp only [answer] at h
      split at h <;> cases h
      trivial
  | startFindByPlayer playerId =>
    cases result with
    | none => cases h
    | some room =>
      simp only [answer] at h
      split at h <;> cases h
      trivial
  | startUpdateStatus room => exact startSessions_ok h
  | startCreateSessions roomId remaining failed updated => exact startSessions_ok h
  | createInsert | joinAddMember | leaveRemoveMember | readySet => cases h
  | joinFindByPlayer | joinFindByCode | leaveFindByPlayer =>
    cases result <;> cases h
    trivial

/-- A statement that only reads, and the one after it. -/
inductive Leads : Stage → Stage → Prop
  | membershipRoom {playerId roomId} : Leads (.findMembership playerId) (.findMembershipRoom roomId)
  | membershipMembers {roomId row} : Leads (.findMembershipRoom roomId) (.readMembers roomId row)
  | codeMembers {code roomId row} : Leads (.findByCode code) (.readMembers roomId row)
  | addRead {roomId playerId row} :
      Leads (.addFind roomId playerId) (.addFindMembers roomId playerId row)
  | addChecked {roomId playerId row} :
      Leads (.addFindMembers roomId playerId row) (.addInsert roomId playerId)
  | removeRead {roomId playerId hostId} :
      Leads (.removeFind roomId playerId) (.removeDelete roomId playerId hostId)
  | nobodyLeft {roomId playerId hostId} :
      Leads (.removeCount roomId playerId hostId) (.removeClose roomId)
  | hostLeft {roomId playerId hostId} :
      Leads (.removeCount roomId playerId hostId) (.removeFindHost roomId)
  | memberLeft {roomId playerId hostId} :
      Leads (.removeCount roomId playerId hostId) (.reread roomId)
  | noHost {roomId} : Leads (.removeFindHost roomId) (.reread roomId)
  | nextHost {roomId hostId} : Leads (.removeFindHost roomId) (.removeSetHost roomId hostId)
  | readBack {roomId row} : Leads (.reread roomId) (.readMembers roomId row)

/-- A repository call at the place is over: the call returns, or commits on its
way to the next place. -/
inductive Ends (place : Place) (draws : List LobbyDraw) : Pc → Prop
  | goes {next} (ok : PlaceOk place → PlaceOk next) :
      Ends place draws (.commits next draws.tail (first next))
  | returns {reply} : Ends place draws (.done reply)

/-- Everything a statement can do that does not throw. -/
inductive Continues (place : Place) (draws : List LobbyDraw) (db : LobbyDb) :
    Stage → List Effect → Pc → Prop
  | leads {stage next} (leads : Leads stage next) :
      Continues place draws db stage [] (.runs place draws next)
  | notFound {playerId pc} (ends : Ends place draws pc) :
      Continues place draws db (.findMembership playerId) [] pc
  | noCode {code pc} (ends : Ends place draws pc) : Continues place draws db (.findByCode code) [] pc
  | resolved {roomId row pc} (ends : Ends place draws pc) :
      Continues place draws db (.readMembers roomId row) [] pc
  | roomCreated {input} (fresh : db.rooms.get (draws.headD default).roomId = none) :
      Continues place draws db (.createRoomRow input)
        [.insertRoom (draws.headD default).roomId input]
        (.runs place draws (.createHostRow input))
  | hostInserted {input} (absent : memberAt db (draws.headD default).roomId input.hostId = none) :
      Continues place draws db (.createHostRow input)
        [.insertMember (draws.headD default).roomId input.hostId (newMember (draws.headD default))]
        (.runs place draws (.reread (draws.headD default).roomId))
  | memberInserted {roomId playerId} (absent : memberAt db roomId playerId = none) :
      Continues place draws db (.addInsert roomId playerId)
        [.insertMember roomId playerId (newMember (draws.headD default))]
        (.runs place draws (.reread roomId))
  | memberDeleted {roomId playerId hostId} :
      Continues place draws db (.removeDelete roomId playerId hostId) (deletes db roomId playerId)
        (.runs place draws (.removeCount roomId playerId hostId))
  | closed {roomId pc} (found : db.rooms.has roomId = true) (ends : Ends place draws pc) :
      Continues place draws db (.removeClose roomId) [.setStatus roomId .closed] pc
  | handedOver {roomId hostId} (found : db.rooms.has roomId = true) :
      Continues place draws db (.removeSetHost roomId hostId) [.setHost roomId hostId]
        (.runs place draws (.reread roomId))
  | membershipFound {roomId playerId ready membershipId} :
      Continues place draws db (.readyFind roomId playerId ready) []
        (.commits place draws (.readyUpdate roomId playerId ready membershipId))
  | readied {roomId playerId ready membershipId member}
      (found : membershipAt db roomId playerId membershipId = some member) :
      Continues place draws db (.readyUpdate roomId playerId ready membershipId)
        [.setReady roomId playerId ready] (.commits place draws (.reread roomId))
  | statusUpdated {roomId status} (found : db.rooms.has roomId = true) :
      Continues place draws db (.updateStatus roomId status) [.setStatus roomId status]
        (.runs place draws (.reread roomId))
  | notSettled {roomId remaining failed updated pc} (ends : Ends place draws pc) :
      Continues place draws db (.insertSession roomId remaining failed updated) [] pc
  | settled {roomId remaining failed updated member pc}
      (found : findFirst remaining (draws.headD default).pick = some member)
      (ends : Ends place draws pc) :
      Continues place draws db (.insertSession roomId remaining failed updated)
        [.insertSession (newSession roomId member (draws.headD default))] pc

theorem proceed_continues {effects effects' : List Effect} {place : Place} {draws : List LobbyDraw}
    {next : Next Place Reply Failure} {pc : Pc}
    (hok : ∀ place', next = .goes place' → PlaceOk place → PlaceOk place')
    (h : proceed effects draws.tail next = .continues effects' pc) :
    effects' = effects ∧ Ends place draws pc := by
  cases next with
  | goes place' =>
    cases h
    exact ⟨rfl, .goes (hok place' rfl)⟩
  | returns reply =>
    cases h
    exact ⟨rfl, .returns⟩
  | throws failure => cases h

theorem insertMember_continues {db : LobbyDb} {roomId playerId : String} {member : MemberRow}
    {next pc : Pc} {effects : List Effect}
    (h : insertMember db roomId playerId member next = .continues effects pc) :
    memberAt db roomId playerId = none ∧ effects = [.insertMember roomId playerId member] ∧
      pc = next := by
  unfold insertMember at h
  split at h
  next => cases h
  next habsent =>
    split at h <;> cases h
    exact ⟨by simpa using habsent, rfl, rfl⟩

theorem settleSession_continues {place : Place} {draws : List LobbyDraw} {db : LobbyDb}
    {roomId : String} {remaining : List RoomMemberEntity} {failed : Option Failure}
    {updated : Reply} {effects : List Effect} {pc : Pc}
    (h : settleSession db roomId remaining failed updated draws = .continues effects pc) :
    Continues place draws db (.insertSession roomId remaining failed updated) effects pc := by
  have hok : ∀ {rest failed place'}, startSessions roomId rest failed updated = .goes place' →
      PlaceOk place → PlaceOk place' := fun hgoes _ => startSessions_ok hgoes
  simp only [settleSession] at h
  split at h
  next =>
    obtain ⟨rfl, hends⟩ := proceed_continues (fun _ => hok) h
    exact .notSettled hends
  next member hfound =>
    split at h
    next =>
      obtain ⟨rfl, hends⟩ := proceed_continues (fun _ => hok) h
      exact .notSettled hends
    next =>
      split at h
      next =>
        cases h
        exact .settled hfound (.goes fun _ => trivial)
      next =>
        obtain ⟨rfl, hends⟩ := proceed_continues (fun _ => hok) h
        exact .settled hfound hends

theorem runStage_continues {place : Place} {draws : List LobbyDraw} {db : LobbyDb} {stage : Stage}
    {effects : List Effect} {pc : Pc} (h : runStage place draws stage db = .continues effects pc) :
    Continues place draws db stage effects pc := by
  have hok : ∀ {result place'}, answer place (draws.headD default) result = .goes place' →
      PlaceOk place → PlaceOk place' := fun hgoes hplace => answer_ok hplace hgoes
  cases stage with
  | findMembership playerId =>
    simp only [runStage] at h
    split at h
    next =>
      obtain ⟨rfl, hends⟩ := proceed_continues (fun _ => hok) h
      exact .notFound hends
    next =>
      cases h
      exact .leads .membershipRoom
  | findMembershipRoom roomId =>
    simp only [runStage] at h
    split at h <;> cases h
    exact .leads .membershipMembers
  | findByCode code =>
    simp only [runStage] at h
    split at h
    next =>
      obtain ⟨rfl, hends⟩ := proceed_continues (fun _ => hok) h
      exact .noCode hends
    next =>
      cases h
      exact .leads .codeMembers
  | createRoomRow input =>
    simp only [runStage] at h
    split at h
    next => cases h
    next hfree =>
      split at h <;> cases h
      rw [Bool.or_eq_true, not_or] at hfree
      exact .roomCreated (by simpa [JsMap.has] using hfree.1)
  | createHostRow input =>
    obtain ⟨habsent, rfl, rfl⟩ := insertMember_continues h
    exact .hostInserted habsent
  | addFind roomId playerId =>
    simp only [runStage] at h
    split at h <;> cases h
    exact .leads .addRead
  | addFindMembers roomId playerId row =>
    simp only [runStage] at h
    split at h <;> cases h
    exact .leads .addChecked
  | addInsert roomId playerId =>
    obtain ⟨habsent, rfl, rfl⟩ := insertMember_continues h
    exact .memberInserted habsent
  | removeFind roomId playerId =>
    simp only [runStage] at h
    split at h <;> cases h
    exact .leads .removeRead
  | removeDelete roomId playerId hostId =>
    cases h
    exact .memberDeleted
  | removeCount roomId playerId hostId =>
    simp only [runStage] at h
    split at h
    next =>
      cases h
      exact .leads .nobodyLeft
    next =>
      split at h <;> cases h
      next => exact .leads .hostLeft
      next => exact .leads .memberLeft
  | removeClose roomId =>
    simp only [runStage] at h
    split at h
    next hfound =>
      obtain ⟨rfl, hends⟩ := proceed_continues (fun _ => hok) h
      exact .closed hfound hends
    next => cases h
  | removeFindHost roomId =>
    simp only [runStage] at h
    split at h <;> cases h
    next => exact .leads .noHost
    next => exact .leads .nextHost
  | removeSetHost roomId hostId =>
    simp only [runStage] at h
    split at h <;> cases h
    next hfound => exact .handedOver hfound
  | readyFind roomId playerId ready =>
    simp only [runStage] at h
    split at h <;> cases h
    exact .membershipFound
  | readyUpdate roomId playerId ready membershipId =>
    simp only [runStage] at h
    split at h <;> cases h
    next hfound => exact .readied hfound
  | updateStatus roomId status =>
    simp only [runStage] at h
    split at h <;> cases h
    next hfound => exact .statusUpdated hfound
  | insertSession roomId remaining failed updated => exact settleSession_continues h
  | reread roomId =>
    simp only [runStage] at h
    split at h <;> cases h
    exact .leads .readBack
  | readMembers roomId row =>
    obtain ⟨rfl, hends⟩ := proceed_continues (fun _ => hok) h
    exact .resolved hends

theorem guarded (maxPlayersPerRoom : Nat) : Guarded (protocol maxPlayersPerRoom) touches part where
  frame := frame
  locked := by
    intro pc db effects next h effect heffect
    cases pc with
    | runs place draws stage =>
      have hcontinues : Continues place draws db stage effects next := runStage_continues h
      cases hcontinues with
      | memberDeleted =>
        simp only [deletes] at heffect
        split at heffect
        next hfound =>
          rw [List.mem_singleton.mp heffect]
          simp [protocol, needs, needsAt, hfound, touches]
        next => cases heffect
      | settled found =>
        rw [List.mem_singleton.mp heffect]
        simp only [protocol, needs, needsAt, found]
        exact List.mem_singleton_self _
      | readied found =>
        rw [List.mem_singleton.mp heffect]
        simp [protocol, needs, needsAt, found, touches]
      | closed found =>
        rw [List.mem_singleton.mp heffect]
        simp [protocol, needs, needsAt, found, touches]
      | handedOver found =>
        rw [List.mem_singleton.mp heffect]
        simp [protocol, needs, needsAt, found, touches]
      | statusUpdated found =>
        rw [List.mem_singleton.mp heffect]
        simp [protocol, needs, needsAt, found, touches]
      | roomCreated | hostInserted | memberInserted =>
        rw [List.mem_singleton.mp heffect]
        exact List.mem_cons_self
      | _ => cases heffect
    | _ =>
      cases h
      cases heffect

/-- The member's row is deleted, or there was none. -/
def Removal (roomId playerId : String) (pending : List Effect) : Prop :=
  pending = [] ∨ pending = [.deleteMember roomId playerId]

/-- What a transaction commits. -/
inductive Written (db : LobbyDb) (held : List Lock) : List Effect → Prop
  | nothing : Written db held []
  | created {roomId input member} (fresh : db.rooms.get roomId = none)
      (locked : .room roomId ∈ held) (capacity : 2 ≤ input.maxPlayers) :
      Written db held [.insertRoom roomId input, .insertMember roomId input.hostId member]
  | joined {roomId playerId member} (absent : memberAt db roomId playerId = none)
      (locked : .member roomId playerId ∈ held) :
      Written db held [.insertMember roomId playerId member]
  | left {roomId playerId} : Written db held [.deleteMember roomId playerId]
  | closed {roomId playerId removal} (removes : Removal roomId playerId removal) :
      Written db held (removal ++ [.setStatus roomId .closed])
  | handedOver {roomId playerId hostId removal} (removes : Removal roomId playerId removal) :
      Written db held (removal ++ [.setHost roomId hostId])
  | readied {roomId playerId ready} : Written db held [.setReady roomId playerId ready]
  | started {roomId} : Written db held [.setStatus roomId .inProgress]
  | settled {session} : Written db held [.insertSession session]

/-- What has been written before a statement. -/
def StageOk (db : LobbyDb) (held : List Lock) (pending : List Effect) (draw : LobbyDraw) :
    Stage → Prop
  | .createRoomRow input => pending = [] ∧ 2 ≤ input.maxPlayers
  | .createHostRow input => pending = [.insertRoom draw.roomId input] ∧
      .room draw.roomId ∈ held ∧ db.rooms.get draw.roomId = none ∧ 2 ≤ input.maxPlayers
  | .removeCount roomId playerId _ => Removal roomId playerId pending
  | .removeClose roomId => ∃ playerId, Removal roomId playerId pending
  | .removeFindHost roomId => ∃ playerId, Removal roomId playerId pending
  | .removeSetHost roomId _ => ∃ playerId, Removal roomId playerId pending
  | .updateStatus _ status => pending = [] ∧ status = .inProgress
  | .reread _ => Written db held pending
  | .readMembers _ _ => Written db held pending
  | _ => pending = []

/-- What a call in progress knows. -/
def Knows (a : ActiveCall) (db : LobbyDb) : Prop :=
  match a.pc with
  | .runs place draws stage =>
    PlaceOk place ∧ StageOk db a.held a.pending (draws.headD default) stage
  | .commits place draws stage => PlaceOk place ∧ Written db a.held a.pending ∧
      StageOk db [] [] (draws.headD default) stage
  | .done _ => Written db a.held a.pending

theorem get_of_part {db db' : LobbyDb} {roomId : String}
    (h : part (.room roomId) db' = part (.room roomId) db) (hnone : db.rooms.get roomId = none) :
    db'.rooms.get roomId = none := by
  simpa [part, hnone] using h

theorem Written.frame {db db' : LobbyDb} {held : List Lock} {pending : List Effect}
    (hparts : ∀ lock ∈ held, part lock db' = part lock db) (h : Written db held pending) :
    Written db' held pending := by
  cases h with
  | nothing => exact .nothing
  | created fresh locked capacity =>
    exact .created (get_of_part (hparts _ locked) fresh) locked capacity
  | joined absent locked =>
    have hmember := congrArg Prod.snd (hparts _ locked)
    exact .joined (Eq.trans hmember absent) locked
  | left => exact .left
  | closed removes => exact .closed removes
  | handedOver removes => exact .handedOver removes
  | readied => exact .readied
  | started => exact .started
  | settled => exact .settled

theorem StageOk.frame {db db' : LobbyDb} {held : List Lock} {pending : List Effect}
    {draw : LobbyDraw} {stage : Stage} (hparts : ∀ lock ∈ held, part lock db' = part lock db)
    (h : StageOk db held pending draw stage) : StageOk db' held pending draw stage := by
  cases stage with
  | createHostRow input =>
    obtain ⟨hpending, hlocked, hfresh, hcapacity⟩ := h
    exact ⟨hpending, hlocked, get_of_part (hparts _ hlocked) hfresh, hcapacity⟩
  | reread roomId => exact Written.frame hparts h
  | readMembers roomId row => exact Written.frame hparts h
  | _ => exact h

/-- What has been written before a statement that only reads has been written
before the one it leads to. -/
theorem StageOk.leads {db : LobbyDb} {held : List Lock} {pending : List Effect} {draw : LobbyDraw}
    {stage next : Stage} (h : StageOk db held pending draw stage) (hleads : Leads stage next) :
    StageOk db held pending draw next := by
  have hwritten : ∀ roomId playerId, Removal roomId playerId pending → Written db held pending := by
    intro roomId playerId hremoval
    rcases hremoval with rfl | rfl
    · exact .nothing
    · exact .left
  cases hleads with
  | membershipMembers | codeMembers =>
    have hpending : pending = [] := h
    exact hpending ▸ Written.nothing
  | nobodyLeft => exact ⟨_, h⟩
  | hostLeft => exact ⟨_, h⟩
  | memberLeft => exact hwritten _ _ h
  | noHost =>
    obtain ⟨playerId, hremoval⟩ := h
    exact hwritten _ playerId hremoval
  | _ => exact h

theorem first_ok {place : Place} (h : PlaceOk place) (db : LobbyDb) (held : List Lock)
    (draw : LobbyDraw) : StageOk db held [] draw (first place) := by
  cases place with
  | createInsert input => exact ⟨rfl, h⟩
  | startUpdateStatus room => exact ⟨rfl, rfl⟩
  | _ => exact rfl

/-- The call a repository call ends in knows what has been written. -/
theorem Ends.knows {place : Place} {draws : List LobbyDraw} {pc : Pc} (h : Ends place draws pc)
    (hplace : PlaceOk place) {call : DrawnCall} {db : LobbyDb} {held : List Lock}
    {pending : List Effect} (hwritten : Written db held pending) :
    Knows ⟨call, pc, pending, held⟩ db := by
  cases h with
  | goes ok => exact ⟨ok hplace, hwritten, first_ok (ok hplace) _ _ _⟩
  | returns => exact hwritten

theorem Written.more {db : LobbyDb} {held locks : List Lock} {pending : List Effect}
    (h : Written db held pending) : Written db (held ++ locks) pending := by
  cases h with
  | nothing => exact .nothing
  | created fresh locked capacity =>
    exact .created fresh (List.mem_append_left _ locked) capacity
  | joined absent locked => exact .joined absent (List.mem_append_left _ locked)
  | left => exact .left
  | closed removes => exact .closed removes
  | handedOver removes => exact .handedOver removes
  | readied => exact .readied
  | started => exact .started
  | settled => exact .settled

theorem StageOk.more {db : LobbyDb} {held locks : List Lock} {pending : List Effect}
    {draw : LobbyDraw} {stage : Stage} (h : StageOk db held pending draw stage) :
    StageOk db (held ++ locks) pending draw stage := by
  cases stage with
  | createHostRow input =>
    obtain ⟨hpending, hlocked, hfresh, hcapacity⟩ := h
    exact ⟨hpending, List.mem_append_left _ hlocked, hfresh, hcapacity⟩
  | reread roomId => exact Written.more h
  | readMembers roomId row => exact Written.more h
  | _ => exact h

theorem knows_ran {a : ActiveCall} {db : LobbyDb} {maxPlayersPerRoom : Nat}
    {effects : List Effect} {next : Pc} (h : Knows a db)
    (hrun : run a.pc ((protocol maxPlayersPerRoom).view a db) = .continues effects next) :
    Knows ⟨a.call, next, a.pending ++ effects,
      a.held ++ needs a.pc ((protocol maxPlayersPerRoom).view a db)⟩ db := by
  obtain ⟨call, pc, pending, held⟩ := a
  cases pc with
  | runs place draws stage =>
    obtain ⟨hplace, hstage⟩ := h
    -- what has been written is what the stage says, with the new locks
    generalize hlocks : needs _ _ = locks
    have hmore : StageOk db (held ++ locks) pending (draws.headD default) stage := hstage.more
    have hcontinues := runStage_continues hrun
    cases hcontinues with
    | leads leads =>
      rw [List.append_nil]
      exact ⟨hplace, hmore.leads leads⟩
    | notFound ends | noCode ends | notSettled ends =>
      cases hstage
      exact ends.knows hplace .nothing
    | resolved ends =>
      rw [List.append_nil]
      exact ends.knows hplace hmore
    | roomCreated fresh =>
      obtain ⟨rfl, hcapacity⟩ := hstage
      refine ⟨hplace, rfl, ?_, fresh, hcapacity⟩
      rw [← hlocks]
      exact List.mem_append_right _ List.mem_cons_self
    | hostInserted absent =>
      obtain ⟨rfl, hlocked, hfresh, hcapacity⟩ := hmore
      exact ⟨hplace, Written.created hfresh hlocked hcapacity⟩
    | memberInserted absent =>
      cases hstage
      refine ⟨hplace, Written.joined absent ?_⟩
      rw [← hlocks]
      exact List.mem_append_right _ List.mem_cons_self
    | memberDeleted =>
      cases hstage
      refine ⟨hplace, ?_⟩
      simp only [deletes]
      split
      next => exact Or.inr rfl
      next => exact Or.inl rfl
    | closed found ends =>
      obtain ⟨playerId, hremoval⟩ := hstage
      exact ends.knows hplace (.closed hremoval)
    | handedOver =>
      obtain ⟨playerId, hremoval⟩ := hstage
      exact ⟨hplace, Written.handedOver hremoval⟩
    | membershipFound =>
      cases hstage
      exact ⟨hplace, .nothing, rfl⟩
    | readied =>
      cases hstage
      exact ⟨hplace, .readied, Written.nothing⟩
    | statusUpdated =>
      obtain ⟨rfl, rfl⟩ := hstage
      exact ⟨hplace, Written.started⟩
    | settled found ends =>
      cases hstage
      exact ends.knows hplace .settled
  | _ =>
    cases hrun
    simpa [needs] using h

theorem rule (maxPlayersPerRoom : Nat) :
    Rule (protocol maxPlayersPerRoom) part (fun _ _ => True) Knows fun _ _ => True where
  frame a db db' hparts h := by
    obtain ⟨call, pc, pending, held⟩ := a
    cases pc with
    | runs place draws stage => exact ⟨h.1, h.2.frame hparts⟩
    | commits place draws stage => exact ⟨h.1, h.2.1.frame hparts, h.2.2.frame nofun⟩
    | done reply => exact Written.frame hparts h
  opened call pc db h := by
    simp only [protocol, opens] at h
    split at h <;> cases h
    next hopens => exact ⟨opens_ok hopens, first_ok (opens_ok hopens) _ _ _⟩
    next => exact Written.nothing
  ran a db log effects next _ hknows _ hrun := knows_ran hknows hrun
  proceeded a db log next _ hknows hfollow := by
    obtain ⟨call, pc, pending, held⟩ := a
    cases pc with
    | commits place draws stage =>
      cases hfollow
      exact ⟨trivial, hknows.1, hknows.2.2.frame nofun⟩
    | _ => cases hfollow
  returned _ _ _ _ _ _ _ _ := trivial

/-- What a call that commits has written. -/
theorem written_of_commit {a : ActiveCall} {db : LobbyDb} (h : Knows a db)
    (hfollow : follow a.pc ≠ .statement) : Written db a.held a.pending := by
  obtain ⟨call, pc, pending, held⟩ := a
  cases pc with
  | runs place draws stage => exact absurd rfl hfollow
  | commits place draws stage => exact h.2.1
  | done reply => exact h

/-- The effect adds a room or a member. -/
def Effect.inserts : Effect → Bool
  | .insertRoom _ _ => true
  | .insertMember _ _ _ => true
  | _ => false

/-- A transaction adds nothing to the rooms, or a room with its host, or a member. -/
theorem Written.cases {db : LobbyDb} {held : List Lock} {pending : List Effect}
    (h : Written db held pending) : (∀ effect ∈ pending, effect.inserts = false) ∨
    (∃ roomId input member, pending =
      [.insertRoom roomId input, .insertMember roomId input.hostId member] ∧
        db.rooms.get roomId = none ∧ 2 ≤ input.maxPlayers) ∨
    ∃ roomId playerId member, pending = [.insertMember roomId playerId member] ∧
      memberAt db roomId playerId = none := by
  cases h with
  | created fresh locked capacity => exact Or.inr (Or.inl ⟨_, _, _, rfl, fresh, capacity⟩)
  | joined absent locked => exact Or.inr (Or.inr ⟨_, _, _, rfl, absent⟩)
  | closed removes => rcases removes with rfl | rfl <;> simp [Effect.inserts]
  | handedOver removes => rcases removes with rfl | rfl <;> simp [Effect.inserts]
  | _ => simp [Effect.inserts]

/-- After the commit of a new room. -/
theorem get_created {db : LobbyDb} {roomId : String} {input : CreateRoomInput} {member : MemberRow}
    (fresh : db.rooms.get roomId = none) (i : String) :
    ([Effect.insertRoom roomId input, .insertMember roomId input.hostId member].foldl apply
      db).rooms.get i = if i = roomId then some (addTo input.hostId member (newRoom input))
        else db.rooms.get i := by
  simp only [List.foldl_cons, List.foldl_nil, apply, JsMap.has, fresh, Option.isSome_none,
    Bool.false_eq_true, if_false, get_updateRoom, JsMap.get_set]
  split <;> rfl

end LobbyStatements
end RealtimeGameServer.Source
