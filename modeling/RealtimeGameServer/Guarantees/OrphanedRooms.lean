import RealtimeGameServer.Lib.ReadRecords
import RealtimeGameServer.Source.LobbySteps
import RealtimeGameServer.Source.LobbyTransactions

/-!
# Orphaned rooms

`removeMember` decides from a host and a count that it reads before other leaves and
joins commit. In runs in which what a call has read of a room still stands when it
commits, every room is closed exactly when it has no members, and the host of a room
that is not closed is one of its members. Two last members who leave together are
enough for a waiting room without members.
-/
namespace RealtimeGameServer.Guarantees.OrphanedRooms
open Lib ReadCommitted Source Source.Rooms Source.LobbyStatements
open Calls (Next)
open LobbyService (Place Reply answer answer_starts checkAdd_eq_ok)

/-- The room is closed exactly when nobody is in it, and has its host otherwise. -/
structure Hosted (row : RoomRow) : Prop where
  closed : row.status = .closed ↔ ∀ playerId, row.members.get playerId = none
  host : row.status ≠ .closed → row.members.get row.hostId ≠ none

def Consistent (db : LobbyDb) : Prop := ∀ roomId row, db.rooms.get roomId = some row → Hosted row

/-- What a call reads of a room before it writes to it: a join and a start its status; a
leave its host, how many members are left, and who is to host it next. -/
inductive Read where
  | status (roomId : String) (status : RoomStatus)
  | host (roomId playerId hostId : String)
  | remaining (roomId : String) (count : Nat)
  | nextHost (roomId : String) (hostId : Option String)

/-- The read of a `startGame` on which it decides. -/
def startsGame : Place → Bool
  | .startFindByPlayer _ => true
  | _ => false

def statusRead (db : LobbyDb) (roomId : String) : List Read :=
  ((db.rooms.get roomId).map fun row => Read.status roomId row.status).toList

def readsAt (place : Place) (stage : Stage) (db : LobbyDb) : List Read :=
  match stage with
  | .findMembershipRoom roomId => if startsGame place then statusRead db roomId else []
  | .addFind roomId _ => statusRead db roomId
  | .removeFind roomId playerId =>
    ((db.rooms.get roomId).map fun row => Read.host roomId playerId row.hostId).toList
  | .removeCount roomId _ _ => [.remaining roomId (currentMembers db roomId).size]
  | .removeFindHost roomId => [.nextHost roomId (nextHost db roomId)]
  | _ => []

def reads (pc : Pc) (db : LobbyDb) : List Read :=
  match pc with
  | .runs place _ stage => readsAt place stage db
  | _ => []

def changesRoom : Effect → Bool
  | .setReady _ _ _ | .insertSession _ => false
  | _ => true

/-- What has been read is as it was: a room that was not closed is not, and the leaving player
does not host it if another one did; and for the transaction itself, there are members left or
not as there were, and the next host is one of them. -/
def StillAsRead (db view : LobbyDb) : Read → Prop
  | .status roomId status => ∀ row ∈ db.rooms.get roomId, row.status = .closed → status = .closed
  | .host roomId playerId hostId =>
    ∀ row ∈ db.rooms.get roomId, row.hostId = playerId → hostId = playerId
  | .remaining roomId count => (currentMembers view roomId).size = 0 ↔ count = 0
  | .nextHost roomId (some hostId) => (memberAt view roomId hostId).isSome
  | .nextHost roomId none => (currentMembers view roomId).size = 0

/-- A transaction that changes a room's members, host or status finds what its call has read as
it was. -/
def Stands (a : ActiveCall) (db : LobbyDb) (read : Read) : Prop :=
  (∃ effect ∈ a.pending, changesRoom effect) → StillAsRead db (a.pending.foldl apply db) read

theorem hosted_addTo {row : RoomRow} (h : Hosted row) (hopen : row.status ≠ .closed)
    (playerId : String) (member : MemberRow) : Hosted (addTo playerId member row) where
  closed := by
    refine iff_of_false hopen fun hempty => ?_
    have hmember := hempty playerId
    rw [addTo, JsMap.get_set_self] at hmember
    cases hmember
  host _ := by
    have hhost := h.host hopen
    simp only [addTo, JsMap.get_set]
    split
    next => nofun
    next => exact hhost

theorem hosted_newRoom (input : CreateRoomInput) (member : MemberRow) :
    Hosted (addTo input.hostId member (newRoom input)) where
  closed := by
    refine iff_of_false nofun fun hempty => ?_
    have hmember := hempty input.hostId
    rw [addTo, JsMap.get_set_self] at hmember
    cases hmember
  host _ := by
    have hhost : (newRoom input).hostId = input.hostId := rfl
    simp [addTo, hhost]

theorem get_removeFrom (playerId other : String) (row : RoomRow) :
    (removeFrom playerId row).members.get other =
      if other = playerId then none else row.members.get other :=
  JsMap.get_delete _ _ _

/-- A leave that leaves a member who hosts the room. -/
theorem hosted_removeFrom {row : RoomRow} (h : Hosted row) {playerId hostId : String}
    (hhost : row.status ≠ .closed → row.members.get hostId ≠ none ∧ hostId ≠ playerId) :
    Hosted (Rooms.setHost hostId (removeFrom playerId row)) where
  closed := by
    change row.status = .closed ↔ ∀ other, (removeFrom playerId row).members.get other = none
    constructor
    · intro hclosed other
      rw [get_removeFrom]
      split
      next => rfl
      next => exact h.closed.mp hclosed other
    · intro hempty
      by_contra hopen
      obtain ⟨hmember, hne⟩ := hhost hopen
      have hnone := hempty hostId
      rw [get_removeFrom, if_neg hne] at hnone
      exact hmember hnone
  host hopen := by
    obtain ⟨hmember, hne⟩ := hhost hopen
    change (removeFrom playerId row).members.get hostId ≠ none
    rwa [get_removeFrom, if_neg hne]

theorem hosted_setHost {row : RoomRow} (h : Hosted row) {hostId : String}
    (hhost : row.status ≠ .closed → row.members.get hostId ≠ none) :
    Hosted (Rooms.setHost hostId row) where
  closed := h.closed
  host := hhost

theorem hosted_closed {row : RoomRow} (hempty : ∀ playerId, row.members.get playerId = none) :
    Hosted (Rooms.setStatus .closed row) where
  closed := iff_of_true rfl hempty
  host hopen := absurd rfl hopen

theorem hosted_started {row : RoomRow} (h : Hosted row) (hopen : row.status ≠ .closed) :
    Hosted (Rooms.setStatus .inProgress row) where
  closed := by
    refine iff_of_false nofun fun hempty => ?_
    exact h.host hopen (hempty row.hostId)
  host _ := h.host hopen

theorem hosted_setReadyOf {row : RoomRow} (h : Hosted row) (playerId : String) (ready : Bool) :
    Hosted (setReadyOf playerId ready row) := by
  constructor
  case closed =>
    simp only [status_setReadyOf, get_setReadyOf_eq_none]
    exact h.closed
  case host =>
    intro hopen
    rw [status_setReadyOf] at hopen
    rw [hostId_setReadyOf, Ne, get_setReadyOf_eq_none]
    exact h.host hopen

theorem consistent_update {db : LobbyDb} (h : Consistent db) {roomId : String}
    {change : RoomRow → RoomRow}
    (hchange : ∀ row, db.rooms.get roomId = some row → Hosted row → Hosted (change row)) :
    Consistent (updateRoom db roomId change) := by
  intro i row hrow
  rw [get_updateRoom] at hrow
  split at hrow
  next heq =>
    subst heq
    obtain ⟨old, hold, rfl⟩ := Option.map_eq_some_iff.mp hrow
    exact hchange old hold (h i old hold)
  next => exact h i row hrow

/-- Two updates of one room, one after the other. -/
theorem consistent_update_twice {db : LobbyDb} (h : Consistent db) {roomId : String}
    {first second : RoomRow → RoomRow}
    (hchange : ∀ row, db.rooms.get roomId = some row → Hosted row → Hosted (second (first row))) :
    Consistent (updateRoom (updateRoom db roomId first) roomId second) := by
  intro i row hrow
  simp only [get_updateRoom] at hrow
  split at hrow
  next heq =>
    subst heq
    rw [Option.map_map] at hrow
    obtain ⟨old, hold, rfl⟩ := Option.map_eq_some_iff.mp hrow
    exact hchange old hold (h i old hold)
  next => exact h i row hrow

/-- A status was read of the room, and it was not closed. -/
def ReadOpen (noted : Read → Prop) (roomId : String) : Prop :=
  ∃ status, status ≠ .closed ∧ noted (.status roomId status)

/-- What a transaction has written follows from what its call has read. -/
structure Justified (noted : Read → Prop) (pending : List Effect) : Prop where
  joins : ∀ roomId playerId member, pending = [.insertMember roomId playerId member] →
    ReadOpen noted roomId
  starts : ∀ roomId, pending = [.setStatus roomId .inProgress] → ReadOpen noted roomId
  leaves : ∀ roomId playerId, pending = [.deleteMember roomId playerId] →
    (∃ hostId, hostId ≠ playerId ∧ noted (.host roomId playerId hostId)) ∨
      (∃ count, count ≠ 0 ∧ noted (.remaining roomId count)) ∧ noted (.nextHost roomId none)
  closes : ∀ roomId, .setStatus roomId .closed ∈ pending → noted (.remaining roomId 0)
  handsOver : ∀ roomId hostId, .setHost roomId hostId ∈ pending →
    noted (.nextHost roomId (some hostId))

/-- What is known before a statement that decides on what has been read. -/
def Decided (noted : Read → Prop) (pending : List Effect) : Stage → Prop
  | .addFindMembers roomId _ row => noted (.status roomId row.status)
  | .addInsert roomId _ | .updateStatus roomId _ => ReadOpen noted roomId
  | .removeDelete roomId playerId hostId | .removeCount roomId playerId hostId =>
    noted (.host roomId playerId hostId)
  | .removeClose roomId => noted (.remaining roomId 0)
  | .removeFindHost roomId => ∃ count, count ≠ 0 ∧ noted (.remaining roomId count)
  | .removeSetHost roomId hostId => noted (.nextHost roomId (some hostId))
  | .reread _ => Justified noted pending
  | _ => True

/-- What is known before a statement of the repository call at a place. -/
def StageInformed (noted : Read → Prop) (place : Place) (pending : List Effect) : Stage → Prop
  | .findMembership _ | .findMembershipRoom _ => True
  | .readMembers roomId row => Justified noted pending ∧
    (startsGame place = true → noted (.status roomId row.status))
  | stage => startsGame place = false ∧ Decided noted pending stage

def PlaceInformed (noted : Read → Prop) : Place → Prop
  | .startUpdateStatus room => ReadOpen noted room.id
  | _ => True

/-- What a call in progress has read. -/
def Informed (a : ActiveCall) (noted : Read → Prop) : Prop :=
  match a.pc with
  | .runs place _ stage => PlaceInformed noted place ∧ StageInformed noted place a.pending stage
  | .commits place _ stage => PlaceInformed noted place ∧ Justified noted a.pending ∧
      StageInformed noted place [] stage
  | .done _ => Justified noted a.pending

theorem justified_nil (noted : Read → Prop) : Justified noted [] := by
  constructor <;> simp

theorem justified_insertMember {noted : Read → Prop} {roomId playerId : String} {member : MemberRow}
    (h : ReadOpen noted roomId) : Justified noted [.insertMember roomId playerId member] := by
  constructor
  case joins =>
    intro i other row heq
    cases heq
    exact h
  all_goals simp

theorem justified_created (noted : Read → Prop) (roomId playerId : String)
    (input : CreateRoomInput) (member : MemberRow) :
    Justified noted [.insertRoom roomId input, .insertMember roomId playerId member] := by
  constructor <;> simp

theorem justified_removal {noted : Read → Prop} {roomId playerId : String}
    {removal : List Effect} (removes : Removal roomId playerId removal)
    (h : (∃ hostId, hostId ≠ playerId ∧ noted (.host roomId playerId hostId)) ∨
      (∃ count, count ≠ 0 ∧ noted (.remaining roomId count)) ∧ noted (.nextHost roomId none)) :
    Justified noted removal := by
  rcases removes with rfl | rfl
  · exact justified_nil noted
  · constructor
    case leaves =>
      intro i other heq
      cases heq
      exact h
    all_goals simp

theorem justified_closed {noted : Read → Prop} {roomId playerId : String} {removal : List Effect}
    (removes : Removal roomId playerId removal) (h : noted (.remaining roomId 0)) :
    Justified noted (removal ++ [.setStatus roomId .closed]) := by
  rcases removes with rfl | rfl
  all_goals
    constructor
    case closes =>
      intro i hmem
      have hroom : i = roomId := by simpa using hmem
      exact hroom ▸ h
    all_goals simp

theorem justified_handedOver {noted : Read → Prop} {roomId playerId hostId : String}
    {removal : List Effect} (removes : Removal roomId playerId removal)
    (h : noted (.nextHost roomId (some hostId))) :
    Justified noted (removal ++ [.setHost roomId hostId]) := by
  rcases removes with rfl | rfl
  all_goals
    constructor
    case handsOver =>
      intro i next hmem
      have hnext : i = roomId ∧ next = hostId := by simpa using hmem
      exact hnext.1 ▸ hnext.2 ▸ h
    all_goals simp

theorem justified_started {noted : Read → Prop} {roomId : String} (h : ReadOpen noted roomId) :
    Justified noted [.setStatus roomId .inProgress] := by
  constructor
  case starts =>
    intro i heq
    cases heq
    exact h
  all_goals simp

theorem justified_readied (noted : Read → Prop) (roomId playerId : String) (ready : Bool) :
    Justified noted [.setReady roomId playerId ready] := by
  constructor <;> simp

theorem justified_settled (noted : Read → Prop) (session : SessionEntity) :
    Justified noted [.insertSession session] := by
  constructor <;> simp

theorem first_informed {noted : Read → Prop} {place : Place} (h : PlaceInformed noted place) :
    StageInformed noted place [] (first place) := by
  cases place with
  | startUpdateStatus room => exact ⟨rfl, h⟩
  | createFindByPlayer | joinFindByPlayer | leaveFindByPlayer | readyFindByPlayer
    | startFindByPlayer => trivial
  | _ => exact ⟨rfl, trivial⟩

theorem placeInformed_answer {noted : Read → Prop} {place next : Place} {draw : LobbyDraw}
    {result : Option RoomEntity}
    (hread : ∀ room, startsGame place = true → result = some room →
      noted (.status room.id room.status))
    (h : answer place draw result = .goes next) : PlaceInformed noted next := by
  cases next with
  | startUpdateStatus room =>
    obtain ⟨playerId, rfl, rfl, hstartable⟩ := answer_starts h
    refine ⟨room.status, ?_, hread room rfl rfl⟩
    rw [hstartable.waiting]
    decide
  | _ => trivial

/-- A read that finds no room starts no game. -/
theorem placeInformed_answer_none {noted : Read → Prop} {place next : Place} {draw : LobbyDraw}
    (h : answer place draw none = .goes next) : PlaceInformed noted next := by
  refine placeInformed_answer ?_ h
  intro room _ hnone
  cases hnone

theorem placeInformed_startSessions {noted : Read → Prop} {roomId : String}
    {remaining : List RoomMemberEntity} {failed : Option Failure} {updated : Reply} {next : Place}
    (h : LobbyService.startSessions roomId remaining failed updated = .goes next) :
    PlaceInformed noted next := by
  unfold LobbyService.startSessions at h
  split at h <;> cases h
  trivial

theorem placeInformed_opens {noted : Read → Prop} {maxPlayersPerRoom : Nat}
    {call : LobbyService.Call} {place : Place}
    (h : LobbyService.opens maxPlayersPerRoom call = .goes place) : PlaceInformed noted place := by
  cases call with
  | createRoom hostId name maxPlayers =>
    simp only [LobbyService.opens] at h
    split at h <;> cases h
    trivial
  | _ =>
    cases h
    trivial

/-- The repository call is over, and what it has written is justified. -/
theorem informed_proceed {noted : Read → Prop} {call : DrawnCall} {pc : Pc} {held : List Lock}
    {pending effects effects' : List Effect} {draws : List LobbyDraw}
    {next : Next Place Reply Failure} (hjustified : Justified noted (pending ++ effects))
    (hplace : ∀ place, next = .goes place → PlaceInformed noted place)
    (h : proceed effects draws next = .continues effects' pc) :
    Informed ⟨call, pc, pending ++ effects', held⟩ noted := by
  cases next with
  | goes place =>
    cases h
    exact ⟨hplace place rfl, hjustified, first_informed (hplace place rfl)⟩
  | returns reply =>
    cases h
    exact hjustified
  | throws failure => cases h

theorem informed_settleSession {noted : Read → Prop} {call : DrawnCall} {pc : Pc}
    {held : List Lock} {effects : List Effect} {db : LobbyDb} {roomId : String}
    {remaining : List RoomMemberEntity} {failed : Option Failure} {updated : Reply}
    {draws : List LobbyDraw}
    (h : settleSession db roomId remaining failed updated draws = .continues effects pc) :
    Informed ⟨call, pc, [] ++ effects, held⟩ noted := by
  simp only [settleSession] at h
  split at h
  next => exact informed_proceed (justified_nil noted) (fun _ => placeInformed_startSessions) h
  next =>
    split at h
    next => exact informed_proceed (justified_nil noted) (fun _ => placeInformed_startSessions) h
    next =>
      split at h
      next =>
        cases h
        exact ⟨trivial, justified_settled noted _, rfl, trivial⟩
      next =>
        exact informed_proceed (justified_settled noted _) (fun _ => placeInformed_startSessions) h

/-- What a statement writes follows from what has been read by then. -/
theorem informed_runStage {noted : Read → Prop} {call : DrawnCall} {place : Place}
    {draws : List LobbyDraw} {stage : Stage} {db view : LobbyDb} {held held' : List Lock}
    {pending effects : List Effect} {next : Pc}
    (hstage : StageOk db held pending (draws.headD default) stage)
    (hplace : PlaceInformed noted place) (h : StageInformed noted place pending stage)
    (hreads : ∀ read ∈ readsAt place stage view, noted read)
    (hrun : runStage place draws stage view = .continues effects next) :
    Informed ⟨call, next, pending ++ effects, held'⟩ noted := by
  cases stage with
  | findMembership playerId =>
    cases hstage
    simp only [runStage] at hrun
    split at hrun
    next => exact informed_proceed (justified_nil noted) (fun _ => placeInformed_answer_none) hrun
    next =>
      cases hrun
      exact ⟨hplace, trivial⟩
  | findMembershipRoom roomId =>
    cases hstage
    simp only [runStage] at hrun
    split at hrun <;> cases hrun
    next row hrow =>
      refine ⟨hplace, justified_nil noted, fun hstarts => hreads _ ?_⟩
      simp [readsAt, hstarts, statusRead, hrow]
  | findByCode code =>
    cases hstage
    simp only [runStage] at hrun
    split at hrun
    next => exact informed_proceed (justified_nil noted) (fun _ => placeInformed_answer_none) hrun
    next =>
      cases hrun
      exact ⟨hplace, justified_nil noted, fun hstarts => absurd hstarts (Bool.eq_false_iff.mp h.1)⟩
  | createRoomRow input =>
    simp only [runStage] at hrun
    split at hrun
    next => cases hrun
    next =>
      split at hrun <;> cases hrun
      exact ⟨hplace, h.1, trivial⟩
  | createHostRow input =>
    obtain ⟨rfl, -⟩ := hstage
    obtain ⟨-, rfl, rfl⟩ := insertMember_continues hrun
    exact ⟨hplace, h.1, justified_created noted _ _ _ _⟩
  | addFind roomId playerId =>
    simp only [runStage] at hrun
    split at hrun <;> cases hrun
    next row hrow =>
      refine ⟨hplace, h.1, hreads _ ?_⟩
      simp [readsAt, statusRead, hrow]
  | addFindMembers roomId playerId row =>
    simp only [runStage] at hrun
    split at hrun <;> cases hrun
    next hcheck =>
      have hwaiting : row.status = .waiting := (checkAdd_eq_ok hcheck).1
      refine ⟨hplace, h.1, row.status, ?_, h.2⟩
      rw [hwaiting]
      decide
  | addInsert roomId playerId =>
    cases hstage
    obtain ⟨-, rfl, rfl⟩ := insertMember_continues hrun
    exact ⟨hplace, h.1, justified_insertMember h.2⟩
  | removeFind roomId playerId =>
    simp only [runStage] at hrun
    split at hrun <;> cases hrun
    next row hrow =>
      refine ⟨hplace, h.1, hreads _ ?_⟩
      simp [readsAt, hrow]
  | removeDelete roomId playerId hostId =>
    cases hrun
    exact ⟨hplace, h⟩
  | removeCount roomId playerId hostId =>
    have hcounted : noted (.remaining roomId (currentMembers view roomId).size) :=
      hreads _ (List.mem_singleton_self _)
    simp only [runStage] at hrun
    split at hrun
    next hnobody =>
      cases hrun
      rw [hnobody] at hcounted
      exact ⟨hplace, h.1, hcounted⟩
    next hsome =>
      split at hrun
      next =>
        cases hrun
        exact ⟨hplace, h.1, _, hsome, hcounted⟩
      next hother =>
        cases hrun
        rw [List.append_nil]
        exact ⟨hplace, h.1, justified_removal hstage (Or.inl ⟨hostId, hother, h.2⟩)⟩
  | removeClose roomId =>
    obtain ⟨playerId, hremoval⟩ := hstage
    simp only [runStage] at hrun
    split at hrun
    next =>
      exact informed_proceed (justified_closed hremoval h.2) (fun _ => placeInformed_answer_none)
        hrun
    next => cases hrun
  | removeFindHost roomId =>
    obtain ⟨playerId, hremoval⟩ := hstage
    have hread : noted (.nextHost roomId (nextHost view roomId)) :=
      hreads _ (List.mem_singleton_self _)
    simp only [runStage] at hrun
    split at hrun
    next hnone =>
      cases hrun
      rw [hnone] at hread
      rw [List.append_nil]
      exact ⟨hplace, h.1, justified_removal hremoval (Or.inr ⟨h.2, hread⟩)⟩
    next hostId hnext =>
      cases hrun
      rw [hnext] at hread
      exact ⟨hplace, h.1, hread⟩
  | removeSetHost roomId hostId =>
    obtain ⟨playerId, hremoval⟩ := hstage
    simp only [runStage] at hrun
    split at hrun <;> cases hrun
    exact ⟨hplace, h.1, justified_handedOver hremoval h.2⟩
  | readyFind roomId playerId ready =>
    cases hstage
    simp only [runStage] at hrun
    split at hrun <;> cases hrun
    exact ⟨hplace, justified_nil noted, h.1, trivial⟩
  | readyUpdate roomId playerId ready membershipId =>
    cases hstage
    simp only [runStage] at hrun
    split at hrun <;> cases hrun
    exact ⟨hplace, justified_readied noted _ _ _, h.1, justified_nil noted⟩
  | updateStatus roomId status =>
    obtain ⟨rfl, rfl⟩ := hstage
    simp only [runStage] at hrun
    split at hrun <;> cases hrun
    exact ⟨hplace, h.1, justified_started h.2⟩
  | insertSession roomId remaining failed updated =>
    cases hstage
    exact informed_settleSession hrun
  | reread roomId =>
    simp only [runStage] at hrun
    split at hrun <;> cases hrun
    rw [List.append_nil]
    exact ⟨hplace, h.2, fun hstarts => absurd hstarts (Bool.eq_false_iff.mp h.1)⟩
  | readMembers roomId row =>
    refine informed_proceed ((List.append_nil pending).symm ▸ h.1)
      (fun _ => placeInformed_answer ?_) hrun
    rintro room hstarts ⟨⟩
    exact h.2 hstarts

theorem Justified.more {noted noted' : Read → Prop} (hmore : ∀ read, noted read → noted' read)
    {pending : List Effect} (h : Justified noted pending) : Justified noted' pending := by
  have hopen : ∀ {roomId}, ReadOpen noted roomId → ReadOpen noted' roomId :=
    fun ⟨status, hstatus, hread⟩ => ⟨status, hstatus, hmore _ hread⟩
  constructor
  case joins => exact fun roomId playerId member heq => hopen (h.joins roomId playerId member heq)
  case starts => exact fun roomId heq => hopen (h.starts roomId heq)
  case leaves =>
    intro roomId playerId heq
    rcases h.leaves roomId playerId heq with ⟨hostId, hne, hread⟩ | ⟨⟨count, hcount, hread⟩, hnone⟩
    · exact Or.inl ⟨hostId, hne, hmore _ hread⟩
    · exact Or.inr ⟨⟨count, hcount, hmore _ hread⟩, hmore _ hnone⟩
  case closes => exact fun roomId hmem => hmore _ (h.closes roomId hmem)
  case handsOver => exact fun roomId hostId hmem => hmore _ (h.handsOver roomId hostId hmem)

theorem StageInformed.more {noted noted' : Read → Prop} (hmore : ∀ read, noted read → noted' read)
    {place : Place} {pending : List Effect} {stage : Stage}
    (h : StageInformed noted place pending stage) : StageInformed noted' place pending stage := by
  cases stage with
  | findMembership | findMembershipRoom => trivial
  | readMembers roomId row => exact ⟨h.1.more hmore, fun hstarts => hmore _ (h.2 hstarts)⟩
  | addInsert | updateStatus =>
    obtain ⟨hplace, status, hstatus, hread⟩ := h
    exact ⟨hplace, status, hstatus, hmore _ hread⟩
  | removeFindHost =>
    obtain ⟨hplace, count, hcount, hread⟩ := h
    exact ⟨hplace, count, hcount, hmore _ hread⟩
  | addFindMembers | removeDelete | removeCount | removeClose | removeSetHost =>
    exact ⟨h.1, hmore _ h.2⟩
  | reread => exact ⟨h.1, h.2.more hmore⟩
  | _ => exact ⟨h.1, trivial⟩

theorem PlaceInformed.more {noted noted' : Read → Prop} (hmore : ∀ read, noted read → noted' read)
    {place : Place} (h : PlaceInformed noted place) : PlaceInformed noted' place := by
  cases place with
  | startUpdateStatus room =>
    obtain ⟨status, hstatus, hread⟩ := h
    exact ⟨status, hstatus, hmore _ hread⟩
  | _ => trivial

theorem readRule (maxPlayersPerRoom : Nat) :
    ReadRule (protocol maxPlayersPerRoom) reads Knows Informed where
  more a noted noted' hmore h := by
    obtain ⟨call, pc, pending, held⟩ := a
    cases pc with
    | runs place draws stage => exact ⟨h.1.more hmore, h.2.more hmore⟩
    | commits place draws stage => exact ⟨h.1.more hmore, h.2.1.more hmore, h.2.2.more hmore⟩
    | done reply => exact Justified.more hmore h
  opened call pc noted h := by
    simp only [protocol, opens] at h
    split at h <;> cases h
    next place hopens =>
      exact ⟨placeInformed_opens hopens, first_informed (placeInformed_opens hopens)⟩
    next => exact justified_nil noted
  ran a db noted effects next hknows h hrun hreads := by
    obtain ⟨call, pc, pending, held⟩ := a
    cases pc with
    | runs place draws stage => exact informed_runStage hknows.2 h.1 h.2 hreads hrun
    | _ =>
      cases hrun
      rw [List.append_nil]
      exact h
  proceeded a db noted next hknows h hfollow := by
    obtain ⟨call, pc, pending, held⟩ := a
    cases pc with
    | commits place draws stage =>
      cases hfollow
      exact ⟨h.1, h.2.2⟩
    | _ => cases hfollow

theorem ReadOpen.open {noted : Read → Prop} {roomId : String} {db view : LobbyDb} {row : RoomRow}
    (h : ReadOpen noted roomId) (hstands : ∀ read, noted read → StillAsRead db view read)
    (hrow : db.rooms.get roomId = some row) : row.status ≠ .closed := by
  obtain ⟨status, hstatus, hread⟩ := h
  exact fun hclosed => hstatus (hstands _ hread row hrow hclosed)

/-- A leave that names no host leaves one. -/
theorem hosted_left {noted : Read → Prop} {db view : LobbyDb} {roomId playerId : String}
    {row : RoomRow} (h : Hosted row) (hrow : db.rooms.get roomId = some row)
    (hreads : (∃ hostId, hostId ≠ playerId ∧ noted (.host roomId playerId hostId)) ∨
      (∃ count, count ≠ 0 ∧ noted (.remaining roomId count)) ∧ noted (.nextHost roomId none))
    (hstands : ∀ read, noted read → StillAsRead db view read) :
    Hosted (removeFrom playerId row) := by
  rcases hreads with ⟨hostId, hother, hread⟩ | ⟨⟨count, hsome, hcounted⟩, hnone⟩
  · refine hosted_removeFrom h fun hopen => ⟨h.host hopen, fun heq => ?_⟩
    exact hother (hstands _ hread row hrow heq)
  · -- there cannot be members left and nobody to host them
    exact absurd ((hstands _ hcounted).mp (hstands _ hnone)) hsome

/-- A closing leave leaves nobody. -/
theorem hosted_emptied {noted : Read → Prop} {db view : LobbyDb} {roomId : String}
    {row : RoomRow} (hview : view.rooms.get roomId = some (Rooms.setStatus .closed row))
    (hcounted : noted (.remaining roomId 0))
    (hstands : ∀ read, noted read → StillAsRead db view read) :
    Hosted (Rooms.setStatus .closed row) := by
  have hempty : (currentMembers view roomId).size = 0 := (hstands _ hcounted).mpr rfl
  rw [currentMembers_eq hview, JsMap.size_eq_zero] at hempty
  exact hosted_closed hempty

/-- A leave that names a host names one of those who are left. -/
theorem hosted_handedOver {noted : Read → Prop} {db view : LobbyDb} {roomId hostId : String}
    {row : RoomRow} (hview : view.rooms.get roomId = some (Rooms.setHost hostId row))
    (hread : noted (.nextHost roomId (some hostId)))
    (hstands : ∀ read, noted read → StillAsRead db view read) :
    row.members.get hostId ≠ none := by
  have hmember : (memberAt view roomId hostId).isSome := hstands _ hread
  rw [memberAt, hview, Option.bind_some, Option.isSome_iff_ne_none] at hmember
  exact hmember

theorem consistent_commit {a : ActiveCall} {db : LobbyDb} {noted : Read → Prop}
    (maxPlayersPerRoom : Nat) (hwritten : Written db a.held a.pending)
    (hjustified : Justified noted a.pending) (h : Consistent db)
    (hreads : ∀ read, noted read → Stands a db read) :
    Consistent ((protocol maxPlayersPerRoom).view a db) := by
  obtain ⟨call, pc, pending, held⟩ := a
  simp only [Protocol.view, protocol]
  -- what has been read stands if a room changes
  have hstands : (∃ effect ∈ pending, changesRoom effect) → ∀ read, noted read →
      StillAsRead db (pending.foldl apply db) read :=
    fun hchanges read hread => hreads read hread hchanges
  cases hwritten with
  | nothing => exact h
  | @created roomId input member fresh locked capacity =>
    intro i row hrow
    rw [get_created fresh] at hrow
    split at hrow
    next =>
      cases hrow
      exact hosted_newRoom input member
    next => exact h i row hrow
  | joined =>
    refine consistent_update h fun row hrow hhosted => ?_
    exact hosted_addTo hhosted
      ((hjustified.joins _ _ _ rfl).open (hstands ⟨_, List.mem_cons_self, rfl⟩) hrow) _ _
  | left =>
    refine consistent_update h fun row hrow hhosted => ?_
    exact hosted_left hhosted hrow (hjustified.leaves _ _ rfl)
      (hstands ⟨_, List.mem_cons_self, rfl⟩)
  | @closed roomId playerId removal removes =>
    have hchanges : ∃ effect ∈ removal ++ [.setStatus roomId .closed], changesRoom effect :=
      ⟨_, List.mem_append_right _ List.mem_cons_self, rfl⟩
    have hcounted := hjustified.closes roomId (List.mem_append_right _ List.mem_cons_self)
    rcases removes with rfl | rfl
    · refine consistent_update h fun row hrow _ => ?_
      exact hosted_emptied (get_updateRoom_self hrow _) hcounted (hstands hchanges)
    · refine consistent_update_twice h fun row hrow _ => ?_
      exact hosted_emptied (get_updateRoom_self (get_updateRoom_self hrow _) _) hcounted
        (hstands hchanges)
  | @handedOver roomId playerId hostId removal removes =>
    have hchanges : ∃ effect ∈ removal ++ [.setHost roomId hostId], changesRoom effect :=
      ⟨_, List.mem_append_right _ List.mem_cons_self, rfl⟩
    have hread := hjustified.handsOver roomId hostId (List.mem_append_right _ List.mem_cons_self)
    rcases removes with rfl | rfl
    · refine consistent_update h fun row hrow hhosted => hosted_setHost hhosted fun _ => ?_
      exact hosted_handedOver (get_updateRoom_self hrow _) hread (hstands hchanges)
    · refine consistent_update_twice h fun row hrow hhosted => ?_
      have hmember := hosted_handedOver (get_updateRoom_self (get_updateRoom_self hrow _) _) hread
        (hstands hchanges)
      refine hosted_removeFrom hhosted fun _ => ?_
      rw [get_removeFrom] at hmember
      split at hmember
      next => exact absurd rfl hmember
      next hne => exact ⟨hmember, hne⟩
  | readied => exact consistent_update h fun row _ hhosted => hosted_setReadyOf hhosted _ _
  | started =>
    refine consistent_update h fun row hrow hhosted => ?_
    exact hosted_started hhosted
      ((hjustified.starts _ rfl).open (hstands ⟨_, List.mem_cons_self, rfl⟩) hrow)
  | settled => exact h

theorem justified_of_commit {a : ActiveCall} {noted : Read → Prop} {maxPlayersPerRoom : Nat}
    (h : Informed a noted) (hfollow : (protocol maxPlayersPerRoom).follow a.pc ≠ .statement) :
    Justified noted a.pending := by
  obtain ⟨call, pc, pending, held⟩ := a
  cases pc with
  | runs => exact absurd rfl hfollow
  | commits => exact h.2.1
  | done => exact h

/-- In a run that starts with consistent rooms and at whose commits what the committing call has
read still stands, the rooms are consistent whenever no call is in progress. -/
theorem consistent_of_reads_stand (maxPlayersPerRoom : Nat) (db : LobbyDb) (hdb : Consistent db)
    (events : List LobbyEvent)
    (hstands : (readRecording (protocol maxPlayersPerRoom) reads).StepsMeet (ReadsStand Stands)
      (start db, []) events) :
    (machine (protocol maxPlayersPerRoom)).Along
      (fun s => s.active.size = 0 → Consistent s.committed) (start db) events := by
  have halong : (machine (protocol maxPlayersPerRoom)).Along (fun s => Consistent s.committed)
      (start db) events :=
    along_of_reads (guarded maxPlayersPerRoom) (rule maxPlayersPerRoom)
      (readRule maxPlayersPerRoom)
      (fun _ _ _ hknows hinformed h hfollow hreads =>
        consistent_commit maxPlayersPerRoom (written_of_commit hknows hfollow)
          (justified_of_commit hinformed hfollow) h hreads)
      hdb events hstands
  refine halong.mono ?_
  intro s h _
  exact h

/-- A room with its host and one more member. -/
def couple : LobbyDb where
  rooms := JsMap.empty.set "r1" {
    code := "ABCDEF"
    name := "duel"
    hostId := "p1"
    maxPlayers := 4
    status := .waiting
    members := (JsMap.empty.set "p1" ⟨"m1", false, 0⟩).set "p2" ⟨"m2", false, 1⟩ }
  sessions := []
  usernames := (JsMap.empty.set "p1" "ann").set "p2" "bob"

def leave (playerId : String) : DrawnCall where
  call := .leaveRoom playerId
  draws := []

/-- A leave up to the count of the remaining members. -/
def untilCount (number : Nat) : List LobbyEvent :=
  [.statement number, .statement number, .statement number, .commit number,
    .statement number, .statement number, .statement number]

/-- Both leaves count before either commits; the host hands over. -/
def together : List LobbyEvent :=
  [.call (leave "p1"), .call (leave "p2")] ++ untilCount 0 ++ untilCount 1 ++
    [.statement 0, .statement 0, .statement 0, .statement 0, .commit 0,
      .statement 1, .statement 1, .commit 1]

theorem couple_consistent : Consistent couple := by
  intro roomId row hrow
  simp only [couple, JsMap.get_set] at hrow
  split at hrow
  next =>
    cases hrow
    constructor
    case closed =>
      refine iff_of_false nofun fun hempty => ?_
      cases hempty "p1"
    case host => exact fun _ => nofun
  next => cases hrow

instance (db view : LobbyDb) (read : Read) : Decidable (StillAsRead db view read) :=
  match read with
  | .status roomId status => inferInstanceAs
    (Decidable (∀ row ∈ db.rooms.get roomId, row.status = .closed → status = .closed))
  | .host roomId playerId hostId => inferInstanceAs
    (Decidable (∀ row ∈ db.rooms.get roomId, row.hostId = playerId → hostId = playerId))
  | .remaining roomId count =>
    inferInstanceAs (Decidable ((currentMembers view roomId).size = 0 ↔ count = 0))
  | .nextHost roomId (some hostId) =>
    inferInstanceAs (Decidable ((memberAt view roomId hostId).isSome = true))
  | .nextHost roomId none => inferInstanceAs (Decidable ((currentMembers view roomId).size = 0))

instance (a : ActiveCall) (db : LobbyDb) (read : Read) : Decidable (Stands a db read) :=
  inferInstanceAs (Decidable (_ → _))

/-- A room with its host and two more members, and a player who is in no room. -/
def trio : LobbyDb where
  rooms := JsMap.empty.set "r1" {
    code := "ABCDEF"
    name := "trio"
    hostId := "p1"
    maxPlayers := 4
    status := .waiting
    members := ((JsMap.empty.set "p1" ⟨"m1", false, 0⟩).set "p2" ⟨"m2", false, 1⟩).set "p3"
      ⟨"m3", false, 2⟩ }
  sessions := []
  usernames := (((JsMap.empty.set "p1" "ann").set "p2" "bob").set "p3" "cy").set "p4" "dee"

def joining : DrawnCall where
  call := .joinRoom "p4" "ABCDEF"
  draws := [⟨0, "", "", "", 0, none⟩, ⟨0, "", "", "", 0, none⟩, ⟨0, "", "", "m4", 3, none⟩]

def statements (number count : Nat) : List LobbyEvent := List.replicate count (.statement number)

/-- The host and a guest leave while another player joins: all three have read what they decide on
before the first commits. Then the new host and the player who has joined leave, one of them as
the last, who has counted after the other's commit. -/
def comingAndGoing : List LobbyEvent :=
  [.call (leave "p1"), .call (leave "p3"), .call joining] ++ untilCount 0 ++ untilCount 1 ++
    statements 2 1 ++ [.commit 2] ++ statements 2 2 ++ [.commit 2] ++ statements 2 5 ++
    statements 0 4 ++ statements 1 2 ++ [.commit 0, .commit 1, .commit 2] ++
    [.call (leave "p2"), .call (leave "p4")] ++ statements 3 3 ++ untilCount 4 ++
    statements 4 2 ++ [.commit 3, .commit 4] ++ statements 3 4 ++ [.commit 3]

theorem trio_consistent : Consistent trio := by
  intro roomId row hrow
  simp only [trio, JsMap.get_set] at hrow
  split at hrow
  next =>
    cases hrow
    constructor
    case closed =>
      refine iff_of_false (by decide) fun hempty => ?_
      cases hempty "p1"
    case host => exact fun _ hnone => by cases hnone
  next => cases hrow

theorem comingAndGoing_consistent :
    ∃ s row, (machine (protocol 8)).exec (start trio) comingAndGoing = some s ∧
      s.succeeded.map Prod.fst = [0, 1, 2, 4, 3] ∧ s.committed.rooms.get "r1" = some row ∧
      row.status = .closed ∧ Consistent s.committed := by
  have hrun : ((machine (protocol 8)).exec (start trio) comingAndGoing).bind (fun s =>
      (s.committed.rooms.get "r1").map fun row =>
        (s.active.size, s.succeeded.map Prod.fst, row.status)) =
          some (0, [0, 1, 2, 4, 3], .closed) := by
    decide +kernel
  obtain ⟨s, hexec, hroom⟩ := Option.bind_eq_some_iff.mp hrun
  obtain ⟨row, hrow, hends⟩ := Option.map_eq_some_iff.mp hroom
  simp only [Prod.mk.injEq] at hends
  have hconsistent := consistent_of_reads_stand 8 trio trio_consistent comingAndGoing
    (Machine.stepsMeet_iff_decide.mpr (by decide +kernel))
  exact ⟨s, row, hexec, hends.2.1, hrow, hends.2.2, hconsistent.last hexec hends.1⟩

/-- Not every run leaves consistent rooms when no call is in progress: the last two
members leave a waiting room. -/
theorem last_leaves_orphan : ¬∀ (maxPlayersPerRoom : Nat) (db : LobbyDb), Consistent db →
    ∀ events : List LobbyEvent, (machine (protocol maxPlayersPerRoom)).Along
      (fun s => s.active.size = 0 → Consistent s.committed) (start db) events := by
  intro h
  have hhosted := (h 8 couple couple_consistent together).last rfl rfl "r1" _ rfl
  have hempty : RoomStatus.waiting = .closed := hhosted.closed.mpr fun _ => rfl
  cases hempty

end RealtimeGameServer.Guarantees.OrphanedRooms
