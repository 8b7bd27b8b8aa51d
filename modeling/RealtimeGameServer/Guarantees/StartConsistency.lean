import Mathlib.Data.List.Perm.Basic
import RealtimeGameServer.Guarantees.RoomStatusOrder
import RealtimeGameServer.Source.LobbyCalls

/-!
# The start of a game

`startGame` checks readiness, membership and status on one read and writes the
status and the sessions afterwards. In runs in which each status write finds the
room as its call has read it, and no session insert fails, every room is started
at most once, with all others ready, and has in the end one session for each
member of that moment. Two starts by one host are enough to have two.
-/
namespace RealtimeGameServer.Guarantees.StartConsistency
open Lib Calls Source Source.Rooms Source.LobbyService
open RoomStatusOrder (LobbyState LobbyEvent)

/-- A status write: the call that made it, and the room as it found it. -/
structure Start where
  number : Nat
  roomId : String
  row : RoomRow

/-- The start a step is. -/
def startOf (s : LobbyState) : LobbyEvent → List Start
  | .operation number _ =>
    match s.active.get number with
    | some ⟨_, .startUpdateStatus room⟩ =>
      ((s.store.rooms.get room.id).map fun row => ⟨number, room.id, row⟩).toList
    | _ => []
  | _ => []

/-- The service with the record of its starts. -/
def recorded (maxPlayersPerRoom : Nat) : Machine (LobbyState × List Start) LobbyEvent :=
  (machine (program maxPlayersPerRoom)).recording startOf

/-- The players of the sessions of a room. -/
def sessionsOf (db : LobbyDb) (roomId : String) : List String :=
  (db.sessions.filter fun session => session.roomId = roomId).map SessionEntity.playerId

/-- Rooms are started at most once and with all others ready, and when no call is in
progress a started room has one session for each member it had when it was
started and none for anyone else. -/
structure StartConsistent (s : LobbyState) (starts : List Start) : Prop where
  ready : ∀ start ∈ starts, OthersReady start.row
  once : (starts.map Start.roomId).Nodup
  sessions : s.active.size = 0 → ∀ start ∈ starts, ∀ playerId,
    (sessionsOf s.store start.roomId).count playerId =
      if start.row.members.has playerId then 1 else 0

/-- Sessions are those of rooms that are there and not waiting. -/
def SessionsStarted (db : LobbyDb) : Prop :=
  ∀ session ∈ db.sessions, ∃ row, db.rooms.get session.roomId = some row ∧ row.status ≠ .waiting

/-- What a call has read of a room still stands: its status, its host and its members, and
that those who were ready are. -/
structure Stands (room : RoomEntity) (row : RoomRow) : Prop where
  status : row.status = room.status
  hostId : row.hostId = room.hostId
  members : (room.members.map RoomMemberEntity.playerId).Perm row.members.keys
  ready : ∀ read ∈ room.members, ∀ member ∈ row.members.get read.playerId,
    read.ready = true → member.ready = true

/-- A status write finds its room as it was read, and a session insert is not refused. -/
def OperatesUndisturbed (db : LobbyDb) (draw : LobbyDraw) : Place → Prop
  | .startUpdateStatus room => ∀ row ∈ db.rooms.get room.id, Stands room row
  | .startCreateSessions roomId remaining _ _ => ∀ member ∈ findFirst remaining draw.pick,
    refuseSession db (newSession roomId member draw) draw = none
  | _ => True

def insertsSessions : Place → Bool
  | .startCreateSessions _ _ _ _ => true
  | _ => false

/-- The status writes find their rooms as they were read, and no session insert fails. -/
def Undisturbed (s : LobbyState) : LobbyEvent → Prop
  | .call _ _ => True
  | .operation number draw => ∀ a ∈ s.active.get number, OperatesUndisturbed s.store draw a.place
  | .reject number _ => ∀ a ∈ s.active.get number, insertsSessions a.place = false

/-- The players for whom a call has sessions to insert. -/
def remainingOf : Option (InProgress LobbyService.Call Place) → List String
  | some ⟨_, .startCreateSessions _ remaining _ _⟩ => remaining.map RoomMemberEntity.playerId
  | _ => []

/-- The sessions of a start and the ones its call has still to insert are those of
the members at its moment. -/
structure Tracked (s : LobbyState) (start : Start) : Prop where
  given : start.number < s.started
  past : ∃ row, s.store.rooms.get start.roomId = some row ∧ row.status ≠ .waiting
  ready : OthersReady start.row
  going : ∀ a, s.active.get start.number = some a → ∃ remaining failed updated,
    a.place = .startCreateSessions start.roomId remaining failed updated
  sessions : (remainingOf (s.active.get start.number) ++
    sessionsOf s.store start.roomId).Perm start.row.members.keys

structure Tracks (s : LobbyState) (starts : List Start) : Prop where
  numbered : Numbered s
  tracked : ∀ start ∈ starts, Tracked s start
  apart : (starts.map Start.roomId).Nodup
  creating : ∀ number a roomId remaining failed updated, s.active.get number = some a →
    a.place = .startCreateSessions roomId remaining failed updated →
      remaining ≠ [] ∧ ∃ start ∈ starts, start.number = number ∧ start.roomId = roomId
  started : SessionsStarted s.store

/-- Rooms stay, and none becomes waiting again. -/
def StaysPast (db db' : LobbyDb) : Prop :=
  ∀ i row, db.rooms.get i = some row → ∃ row', db'.rooms.get i = some row' ∧
    (row.status ≠ .waiting → row'.status ≠ .waiting)

theorem StaysPast.refl (db : LobbyDb) : StaysPast db db := fun _ row hrow => ⟨row, hrow, id⟩

theorem staysPast_withRoom {db : LobbyDb} {roomId : String} {old new : RoomRow}
    (found : db.rooms.get roomId = some old)
    (hstatus : old.status ≠ .waiting → new.status ≠ .waiting) :
    StaysPast db (withRoom db roomId new) := by
  intro i row hrow
  rw [get_withRoom]
  split
  next heq =>
    rw [heq, found] at hrow
    cases hrow
    exact ⟨new, rfl, hstatus⟩
  next => exact ⟨row, hrow, id⟩

theorem staysPast_run (place : Place) (draw : LobbyDraw) (db : LobbyDb) :
    StaysPast db (run place draw db).1 := by
  have hchanges := run_changes place draw db
  generalize (run place draw db).1 = db' at hchanges
  cases hchanges with
  | same => exact StaysPast.refl db
  | created fresh =>
    intro i row hrow
    rw [get_withRoom]
    split
    next heq =>
      rw [heq, fresh] at hrow
      cases hrow
    next => exact ⟨row, hrow, id⟩
  | joined found => exact staysPast_withRoom found id
  | closed found => exact staysPast_withRoom found fun _ => nofun
  | left found => exact staysPast_withRoom found id
  | readied found =>
    refine staysPast_withRoom found fun hpast => ?_
    rwa [status_setReadyOf]
  | started found => exact staysPast_withRoom found fun _ => nofun
  | sessionCreated => exact StaysPast.refl db

theorem sessionsStarted_of_staysPast {db db' : LobbyDb} (h : SessionsStarted db)
    (hpast : StaysPast db db') (hsessions : db'.sessions = db.sessions) : SessionsStarted db' := by
  intro session hsession
  obtain ⟨row, hrow, hstatus⟩ := h session (hsessions ▸ hsession)
  obtain ⟨row', hrow', hstatus'⟩ := hpast _ row hrow
  exact ⟨row', hrow', hstatus' hstatus⟩

/-- A start whose call does not move stays tracked, as long as its sessions do. -/
theorem Tracked.other {s t : LobbyState} {start : Start} (h : Tracked s start)
    (hstarted : s.started ≤ t.started)
    (hactive : t.active.get start.number = s.active.get start.number)
    (hpast : StaysPast s.store t.store)
    (hsessions : sessionsOf t.store start.roomId = sessionsOf s.store start.roomId) :
    Tracked t start where
  given := Nat.lt_of_lt_of_le h.given hstarted
  past := by
    obtain ⟨row, hrow, hstatus⟩ := h.past
    obtain ⟨row', hrow', hstatus'⟩ := hpast _ row hrow
    exact ⟨row', hrow', hstatus' hstatus⟩
  ready := h.ready
  going a ha := h.going a (hactive ▸ ha)
  sessions := by
    rw [hactive, hsessions]
    exact h.sessions

/-- The number of a call that inserts no sessions is not that of a start. -/
theorem Tracks.not_started {s : LobbyState} {starts : List Start} (h : Tracks s starts)
    {number : Nat} {a : InProgress LobbyService.Call Place} (hget : s.active.get number = some a)
    (hplace : ∀ roomId remaining failed updated,
      a.place ≠ .startCreateSessions roomId remaining failed updated) :
    ∀ start ∈ starts, start.number ≠ number := by
  intro start hstart heq
  obtain ⟨remaining, failed, updated, hgoing⟩ := (h.tracked start hstart).going a (heq ▸ hget)
  exact hplace _ _ _ _ hgoing

/-- A call without a start moves, and not to the sessions. -/
theorem Tracks.other {s t : LobbyState} {starts : List Start} (h : Tracks s starts) {number : Nat}
    {call : LobbyService.Call} {store : LobbyDb} {next : Next Place Reply Failure}
    (hnone : ∀ start ∈ starts, start.number ≠ number) (hnumbered : Numbered t)
    (hstarted : s.started ≤ t.started)
    (hactive : t.active = (s.proceed number call store next).active) (hstore : t.store = store)
    (hnext : ∀ roomId remaining failed updated,
      next ≠ .goes (.startCreateSessions roomId remaining failed updated))
    (hpast : StaysPast s.store store) (hsessions : store.sessions = s.store.sessions) :
    Tracks t starts where
  numbered := hnumbered
  tracked start hstart := by
    refine (h.tracked start hstart).other hstarted ?_ ?_ ?_
    · rw [hactive]
      exact get_proceed_of_ne _ (hnone start hstart) _ _ _
    · rwa [hstore]
    · rw [hstore, sessionsOf, hsessions, sessionsOf]
  apart := h.apart
  creating i a roomId remaining failed updated hget hcreating := by
    rw [hactive] at hget
    rcases get_proceed hget with ⟨-, hold⟩ | ⟨-, place, hgoes, rfl⟩
    · exact h.creating i a roomId remaining failed updated hold hcreating
    · exact absurd (hgoes.trans (congrArg Next.goes hcreating)) (hnext _ _ _ _)
  started := by
    rw [hstore]
    exact sessionsStarted_of_staysPast h.started hpast hsessions

theorem place_startSessions (roomId : String) (remaining : List RoomMemberEntity)
    (failed : Option Failure) (updated : Reply) :
    (startSessions roomId remaining failed updated).place? =
      if remaining = [] then none else some (.startCreateSessions roomId remaining failed updated) := by
  cases remaining with
  | nil => cases failed <;> rfl
  | cons member rest => rfl

/-- Once `startSessions` has run, the call has the given sessions to insert. -/
theorem remainingOf_startSessions (s : LobbyState) (number : Nat) (call : LobbyService.Call)
    (store : LobbyDb) (roomId : String) (remaining : List RoomMemberEntity)
    (failed : Option Failure) (updated : Reply) :
    remainingOf ((s.proceed number call store
      (startSessions roomId remaining failed updated)).active.get number) =
        remaining.map RoomMemberEntity.playerId := by
  rw [get_proceed_self, place_startSessions]
  split
  next hempty =>
    rw [hempty]
    rfl
  next => rfl

theorem going_startSessions {s : LobbyState} {number : Nat} {call : LobbyService.Call}
    {store : LobbyDb} {roomId : String} {remaining : List RoomMemberEntity}
    {failed : Option Failure} {updated : Reply} {a : InProgress LobbyService.Call Place}
    (h : (s.proceed number call store
      (startSessions roomId remaining failed updated)).active.get number = some a) :
    remaining ≠ [] ∧ a.place = .startCreateSessions roomId remaining failed updated := by
  rw [get_proceed_self, place_startSessions] at h
  split at h <;> cases h
  next hsome => exact ⟨hsome, rfl⟩

/-- A call at its status write has checked the room that it has read. -/
def Checked (s : LobbyState) : Prop :=
  ∀ number a room, s.active.get number = some a → a.place = .startUpdateStatus room →
    ∃ playerId, Startable playerId room

theorem run_checked {place : Place} {draw : LobbyDraw} {db : LobbyDb} {room : RoomEntity}
    (h : (run place draw db).2 = .goes (.startUpdateStatus room)) :
    ∃ playerId, Startable playerId room := by
  have hanswer : ∀ result, (repositoryCall place draw db result).2 =
      .goes (.startUpdateStatus room) → ∃ playerId, Startable playerId room := by
    intro result hgoes
    cases result with
    | error failure => cases hgoes
    | ok r =>
      obtain ⟨playerId, -, -, hstartable⟩ := answer_starts hgoes
      exact ⟨playerId, hstartable⟩
  cases place with
  | startCreateSessions roomId remaining failed updated =>
    obtain ⟨remaining', failed', hnext⟩ :=
      settleSession_next roomId remaining failed updated draw db
    have hgoes := congrArg Next.place? (hnext.symm.trans h)
    rw [place_startSessions] at hgoes
    split at hgoes <;> cases hgoes
  | _ => exact hanswer _ h

theorem Checked.proceed {s : LobbyState} (h : Checked s) (number : Nat)
    (call : LobbyService.Call) (store : LobbyDb) {next : Next Place Reply Failure}
    (hnext : ∀ room, next = .goes (.startUpdateStatus room) →
      ∃ playerId, Startable playerId room) :
    Checked (s.proceed number call store next) := by
  intro i a room hget hplace
  rcases get_proceed hget with ⟨-, hold⟩ | ⟨-, place, hgoes, rfl⟩
  · exact h i a room hold hplace
  · exact hnext room (hgoes.trans (congrArg Next.goes hplace))

theorem Checked.step {maxPlayersPerRoom : Nat} {s t : LobbyState} {event : LobbyEvent}
    (h : Checked s) (hstep : Steps (program maxPlayersPerRoom) s event t) : Checked t := by
  cases hstep with
  | @called call draw =>
    refine h.proceed s.started call s.store fun room hgoes => ?_
    change LobbyService.opens maxPlayersPerRoom call = _ at hgoes
    cases call with
    | createRoom hostId name maxPlayers =>
      simp only [LobbyService.opens] at hgoes
      split at hgoes <;> cases hgoes
    | _ => cases hgoes
  | @operated number draw a store next get hrun =>
    exact h.proceed number a.call store fun room hgoes =>
      run_checked ((congrArg Prod.snd hrun).trans hgoes)
  | rejected => exact h.proceed _ _ _ fun _ hgoes => by cases hgoes

theorem checked_start (db : LobbyDb) : Checked (Calls.start db) := by
  intro number a room hget
  cases hget

/-- Where what was checked still stands, the room is waiting and all others are ready. -/
theorem Stands.ready_of_checked {room : RoomEntity} {row : RoomRow} (h : Stands room row)
    {playerId : String} (hstartable : Startable playerId room) :
    row.status = .waiting ∧ OthersReady row := by
  refine ⟨h.status.trans hstartable.waiting, fun other member hmember hother => ?_⟩
  have hthere : other ∈ row.members.keys := by
    rw [← JsMap.has_iff, JsMap.has, hmember]
    rfl
  obtain ⟨read, hread, rfl⟩ := List.mem_map.mp (h.members.symm.subset hthere)
  have hready := hstartable.ready read hread
  rw [← h.hostId] at hready
  exact h.ready read hread member hmember (hready.resolve_right hother)

theorem sessionsOf_waiting {db : LobbyDb} (h : SessionsStarted db) {roomId : String} {row : RoomRow}
    (hrow : db.rooms.get roomId = some row) (hwaiting : row.status = .waiting) :
    sessionsOf db roomId = [] := by
  rw [sessionsOf, List.map_eq_nil_iff, List.filter_eq_nil_iff]
  intro session hsession heq
  obtain ⟨row', hrow', hstatus⟩ := h session hsession
  rw [of_decide_eq_true heq, hrow] at hrow'
  cases hrow'
  exact hstatus hwaiting

/-- A status write on a waiting room starts it. -/
theorem Tracks.startsRoom {s : LobbyState} {starts : List Start} (h : Tracks s starts) {number : Nat}
    {a : InProgress LobbyService.Call Place} {room : RoomEntity} {row : RoomRow} {updated : Reply}
    (hget : s.active.get number = some a) (hplace : a.place = .startUpdateStatus room)
    (hrow : s.store.rooms.get room.id = some row) (hwaiting : row.status = .waiting)
    (hmembers : (room.members.map RoomMemberEntity.playerId).Perm row.members.keys)
    (hready : OthersReady row) :
    Tracks (s.proceed number a.call (withRoom s.store room.id (setStatus .inProgress row))
      (startSessions room.id room.members none updated))
      (starts ++ [⟨number, room.id, row⟩]) := by
  have hnone : ∀ start ∈ starts, start.number ≠ number := by
    refine h.not_started hget fun _ _ _ _ hcreating => ?_
    rw [hplace] at hcreating
    cases hcreating
  have hpast : StaysPast s.store (withRoom s.store room.id (setStatus .inProgress row)) :=
    staysPast_withRoom hrow fun _ => nofun
  have hsessions : sessionsOf s.store room.id = [] := sessionsOf_waiting h.started hrow hwaiting
  constructor
  case numbered => exact h.numbered.proceed hget _ _
  case tracked =>
    intro start hstart
    rcases List.mem_append.mp hstart with hold | hnew
    · refine (h.tracked start hold).other ?_ ?_ ?_ ?_
      · rw [started_proceed]
      · exact get_proceed_of_ne _ (hnone start hold) _ _ _
      · rw [store_proceed]
        exact hpast
      · rw [store_proceed]
        rfl
    · rw [List.mem_singleton.mp hnew]
      constructor
      case given =>
        rw [started_proceed]
        exact h.numbered number a hget
      case past =>
        rw [store_proceed]
        exact ⟨_, (get_withRoom _ _ _ _).trans (if_pos rfl), nofun⟩
      case ready => exact hready
      case going => exact fun b hb => ⟨_, _, _, (going_startSessions hb).2⟩
      case sessions =>
        rw [remainingOf_startSessions, store_proceed]
        change (_ ++ sessionsOf s.store room.id).Perm _
        rw [hsessions, List.append_nil]
        exact hmembers
  case apart =>
    rw [List.map_append, List.map_singleton]
    refine List.Nodup.append h.apart (List.nodup_singleton _) ?_
    rw [List.disjoint_singleton]
    intro hmem
    -- a room that has been started is not waiting
    obtain ⟨start, hstart, heq⟩ := List.mem_map.mp hmem
    obtain ⟨row', hrow', hstatus⟩ := (h.tracked start hstart).past
    rw [heq, hrow] at hrow'
    cases hrow'
    exact hstatus hwaiting
  case creating =>
    intro i b roomId remaining failed updated hb hcreating
    by_cases hi : i = number
    · subst hi
      obtain ⟨hsome, hgoing⟩ := going_startSessions hb
      rw [hcreating] at hgoing
      cases hgoing
      exact ⟨hsome, _, List.mem_append_right _ (List.mem_singleton_self _), rfl, rfl⟩
    · rw [get_proceed_of_ne _ hi] at hb
      obtain ⟨hsome, start, hstart, hnumber, hroom⟩ :=
        h.creating i b roomId remaining failed updated hb hcreating
      exact ⟨hsome, start, List.mem_append_left _ hstart, hnumber, hroom⟩
  case started =>
    rw [store_proceed]
    exact sessionsStarted_of_staysPast h.started hpast rfl

/-- One of the sessions a call has to insert is inserted. -/
theorem Tracks.insertsSession {s : LobbyState} {starts : List Start} (h : Tracks s starts) {number : Nat}
    {a : InProgress LobbyService.Call Place} {roomId : String} {remaining : List RoomMemberEntity}
    {failed : Option Failure} {updated : Reply} {member : RoomMemberEntity} {draw : LobbyDraw}
    (hget : s.active.get number = some a)
    (hplace : a.place = .startCreateSessions roomId remaining failed updated)
    (hpicked : findFirst remaining draw.pick = some member) :
    Tracks (s.proceed number a.call
      { s.store with sessions := s.store.sessions ++ [newSession roomId member draw] }
      (startSessions roomId (remaining.eraseIdx (draw.pick % remaining.length)) failed updated))
      starts := by
  obtain ⟨-, own, hown, hnumber, hroom⟩ :=
    h.creating number a roomId remaining failed updated hget hplace
  -- the start of the call is the only one of its room
  have hsame : ∀ start ∈ starts, start.roomId = roomId → start = own := fun start hstart heq =>
    List.inj_on_of_nodup_map h.apart hstart hown (heq.trans hroom.symm)
  constructor
  case numbered => exact h.numbered.proceed hget _ _
  case tracked =>
    intro start hstart
    by_cases hstartroom : start.roomId = roomId
    · cases hsame start hstart hstartroom
      have htracked := h.tracked own hown
      subst hnumber
      constructor
      case given =>
        rw [started_proceed]
        exact htracked.given
      case past =>
        rw [store_proceed]
        exact htracked.past
      case ready => exact htracked.ready
      case going => exact fun b hb => ⟨_, _, _, hroom ▸ (going_startSessions hb).2⟩
      case sessions =>
        have hbefore := htracked.sessions
        rw [hget, show a = ⟨a.call, a.place⟩ from rfl, hplace] at hbefore
        rw [remainingOf_startSessions, store_proceed]
        obtain ⟨hlt, hmember⟩ := List.getElem?_eq_some_iff.mp hpicked
        have herase := (List.getElem_cons_eraseIdx_perm hlt).map RoomMemberEntity.playerId
        rw [hmember, List.map_cons] at herase
        have hsessions : sessionsOf
            { s.store with sessions := s.store.sessions ++ [newSession roomId member draw] }
            own.roomId = sessionsOf s.store own.roomId ++ [member.playerId] := by
          simp [sessionsOf, newSession, hroom]
        rw [hsessions]
        refine List.Perm.trans ?_ hbefore
        rw [← List.append_assoc]
        refine List.perm_append_comm.trans ?_
        exact (herase.append_right _)
    · have hne : start.number ≠ number := by
        intro heq
        obtain ⟨_, _, _, hgoing⟩ := (h.tracked start hstart).going a (heq ▸ hget)
        rw [hplace] at hgoing
        cases hgoing
        exact hstartroom rfl
      refine (h.tracked start hstart).other ?_ (get_proceed_of_ne _ hne _ _ _) ?_ ?_
      · rw [started_proceed]
      · rw [store_proceed]
        exact StaysPast.refl s.store
      · rw [store_proceed]
        simp [sessionsOf, newSession, Ne.symm hstartroom]
  case apart => exact h.apart
  case creating =>
    intro i b roomId' remaining' failed' updated' hb hcreating
    by_cases hi : i = number
    · subst hi
      obtain ⟨hsome, hgoing⟩ := going_startSessions hb
      rw [hcreating] at hgoing
      cases hgoing
      exact ⟨hsome, own, hown, hnumber, hroom⟩
    · rw [get_proceed_of_ne _ hi] at hb
      exact h.creating i b roomId' remaining' failed' updated' hb hcreating
  case started =>
    rw [store_proceed]
    intro session hsession
    rcases List.mem_append.mp hsession with hold | hnew
    · exact h.started session hold
    · obtain ⟨row, hrow, hstatus⟩ := (h.tracked own hown).past
      rw [List.mem_singleton.mp hnew]
      exact ⟨row, hroom ▸ hrow, hstatus⟩

/-- The places from which a call gets to its session inserts. -/
def Place.starting : Place → Prop
  | .startUpdateStatus _ => True
  | .startCreateSessions _ _ _ _ => True
  | _ => False

theorem answer_creating {place : Place} {draw : LobbyDraw} {result : Option RoomEntity}
    {roomId : String} {remaining : List RoomMemberEntity} {failed : Option Failure}
    {updated : Reply}
    (h : answer place draw result = .goes (.startCreateSessions roomId remaining failed updated)) :
    Place.starting place := by
  cases place with
  | startUpdateStatus | startCreateSessions => trivial
  | createFindByCode input attempt =>
    cases result with
    | none => cases h
    | some room =>
      simp only [answer] at h
      split at h <;> cases h
  | readyFindByPlayer playerId ready =>
    cases result with
    | none => cases h
    | some room =>
      simp only [answer] at h
      split at h <;> cases h
  | startFindByPlayer playerId =>
    cases result with
    | none => cases h
    | some room =>
      simp only [answer] at h
      split at h <;> cases h
  | _ => cases result <;> cases h

theorem run_creating {place : Place} {draw : LobbyDraw} {db : LobbyDb} {roomId : String}
    {remaining : List RoomMemberEntity} {failed : Option Failure} {updated : Reply}
    (h : (run place draw db).2 = .goes (.startCreateSessions roomId remaining failed updated)) :
    Place.starting place := by
  have hanswer : ∀ result, (repositoryCall place draw db result).2 =
      .goes (.startCreateSessions roomId remaining failed updated) → Place.starting place := by
    intro result hgoes
    cases result with
    | error failure => cases hgoes
    | ok r => exact answer_creating hgoes
  cases place with
  | startCreateSessions => trivial
  | _ => exact hanswer _ h

/-- An operation that neither writes a status nor inserts a session. -/
theorem Tracks.operates {s : LobbyState} {starts : List Start} (h : Tracks s starts)
    {number : Nat} {a : InProgress LobbyService.Call Place} {draw : LobbyDraw}
    (hget : s.active.get number = some a)
    (hplace : ∀ roomId remaining failed updated,
      a.place ≠ .startCreateSessions roomId remaining failed updated)
    (hnext : ∀ roomId remaining failed updated, (run a.place draw s.store).2 ≠
      .goes (.startCreateSessions roomId remaining failed updated)) :
    Tracks (s.proceed number a.call (run a.place draw s.store).1 (run a.place draw s.store).2)
      starts := by
  exact h.other (h.not_started hget hplace) (h.numbered.proceed hget _ _)
    (started_proceed _ _ _ _ _).ge rfl (store_proceed _ _ _ _ _) hnext
    (staysPast_run a.place draw s.store) (sessions_run draw s.store hplace)

theorem startOf_operation {s : LobbyState} {number : Nat} {draw : LobbyDraw}
    {a : InProgress LobbyService.Call Place} (hget : s.active.get number = some a)
    (hplace : ∀ room, a.place = .startUpdateStatus room → s.store.rooms.get room.id = none) :
    startOf s (.operation number draw) = [] := by
  obtain ⟨call, place⟩ := a
  cases place with
  | startUpdateStatus room => simp [startOf, hget, hplace room rfl]
  | _ => simp [startOf, hget]

/-- The operation of a call in progress. -/
theorem Tracks.operated {s : LobbyState} {starts : List Start} (h : Tracks s starts) {number : Nat}
    {a : InProgress LobbyService.Call Place} {draw : LobbyDraw}
    (hget : s.active.get number = some a) (hchecked : Checked s)
    (hguard : OperatesUndisturbed s.store draw a.place) :
    Tracks (s.proceed number a.call (run a.place draw s.store).1 (run a.place draw s.store).2)
      (starts ++ startOf s (.operation number draw)) := by
  obtain ⟨call, place⟩ := a
  cases place with
  | startUpdateStatus room =>
    cases hrow : s.store.rooms.get room.id with
    | none =>
      have hstart : startOf s (.operation number draw) = [] :=
        startOf_operation hget fun room' hroom => by
          cases hroom
          exact hrow
      have hthrows : run (.startUpdateStatus room) draw s.store = (s.store, .throws .recordNotFound) := by
        simp only [run, updateStatus, updateRoom, hrow, readBack, repositoryCall]
      rw [hstart, List.append_nil]
      refine h.operates hget (fun _ _ _ _ hplace => by cases hplace) fun _ _ _ _ hgoes => ?_
      rw [hthrows] at hgoes
      cases hgoes
    | some row =>
      have hstands : Stands room row := hguard row hrow
      obtain ⟨playerId, hstartable⟩ := hchecked number _ room hget rfl
      obtain ⟨hwaiting, hready⟩ := hstands.ready_of_checked hstartable
      have hstart : startOf s (.operation number draw) = [⟨number, room.id, row⟩] := by
        simp [startOf, hget, hrow]
      rw [hstart, run_startUpdateStatus draw hrow]
      exact h.startsRoom hget rfl hrow hwaiting hstands.members hready
  | startCreateSessions roomId remaining failed updated =>
    have hstart : startOf s (.operation number draw) = [] :=
      startOf_operation hget fun _ hroom => by cases hroom
    rw [hstart, List.append_nil]
    cases hpicked : findFirst remaining draw.pick with
    | none =>
      obtain ⟨hsome, -⟩ := h.creating number _ roomId remaining failed updated hget rfl
      exact absurd (findFirst_eq_none hpicked) hsome
    | some member =>
      have hrefused := hguard member hpicked
      have hrun : run (.startCreateSessions roomId remaining failed updated) draw s.store =
          ({ s.store with sessions := s.store.sessions ++ [newSession roomId member draw] },
            startSessions roomId (remaining.eraseIdx (draw.pick % remaining.length)) failed
              updated) := by
        simp only [run, settleSession, hpicked, createSession, hrefused]
      rw [hrun]
      exact h.insertsSession hget rfl hpicked
  | _ =>
    have hstart : startOf s (.operation number draw) = [] :=
      startOf_operation hget fun _ hroom => by cases hroom
    rw [hstart, List.append_nil]
    refine h.operates hget (fun _ _ _ _ hplace => by cases hplace) fun _ _ _ _ hgoes => ?_
    exact run_creating hgoes

theorem opens_creating {maxPlayersPerRoom : Nat} {call : LobbyService.Call} {roomId : String}
    {remaining : List RoomMemberEntity} {failed : Option Failure} {updated : Reply} :
    LobbyService.opens maxPlayersPerRoom call ≠
      .goes (.startCreateSessions roomId remaining failed updated) := by
  intro h
  cases call with
  | createRoom hostId name maxPlayers =>
    simp only [LobbyService.opens] at h
    split at h <;> cases h
  | _ => cases h

theorem tracks_start {db : LobbyDb} (hdb : SessionsStarted db) : Tracks (Calls.start db) [] := by
  constructor
  case numbered =>
    intro i a hget
    cases hget
  case tracked =>
    intro start hstart
    cases hstart
  case apart => exact List.nodup_nil
  case creating =>
    intro i a roomId remaining failed updated hget
    cases hget
  case started => exact hdb

theorem Tracks.step {maxPlayersPerRoom : Nat} {p q : LobbyState × List Start} {event : LobbyEvent}
    (h : Tracks p.1 p.2) (hchecked : Checked p.1)
    (hstep : (recorded maxPlayersPerRoom).step p event = some q)
    (hguard : Undisturbed p.1 event) : Tracks q.1 q.2 := by
  obtain ⟨s, starts⟩ := p
  obtain ⟨t, starts'⟩ := q
  obtain ⟨hmove, hstarts⟩ := Machine.recording_step hstep
  clear hstep
  simp only at h hchecked hguard hmove hstarts ⊢
  subst hstarts
  have hcases := step_cases hmove
  cases hcases with
  | @called call draw =>
    have hstart : startOf s (.call call draw) = [] := rfl
    rw [hstart, List.append_nil]
    have hnone : ∀ start ∈ starts, start.number ≠ s.started :=
      fun start hstart => Nat.ne_of_lt (h.tracked start hstart).given
    exact h.other hnone (h.numbered.step (step_cases hmove)) (Nat.le_succ _) rfl
      (store_proceed _ _ _ _ _) (fun _ _ _ _ => opens_creating) (StaysPast.refl s.store) rfl
  | @operated number draw a store next get hrun =>
    have hstore : (run a.place draw s.store).1 = store := congrArg Prod.fst hrun
    have hnext : (run a.place draw s.store).2 = next := congrArg Prod.snd hrun
    rw [← hstore, ← hnext]
    exact h.operated get hchecked (hguard a get)
  | @rejected number reason a get =>
    have hstart : startOf s (.reject number reason) = [] := rfl
    rw [hstart, List.append_nil]
    have hplace : ∀ roomId remaining failed updated,
        a.place ≠ .startCreateSessions roomId remaining failed updated := by
      intro roomId remaining failed updated heq
      have hkept : insertsSessions a.place = false := hguard a get
      rw [heq] at hkept
      cases hkept
    exact h.other (h.not_started get hplace) (h.numbered.proceed get _ _)
      (started_proceed _ _ _ _ _).ge rfl (store_proceed _ _ _ _ _)
      (fun _ _ _ _ hgoes => by cases hgoes) (StaysPast.refl s.store) rfl

/-- What the starts and sessions are when no call has sessions to insert. -/
theorem Tracks.consistent {s : LobbyState} {starts : List Start} (h : Tracks s starts) :
    StartConsistent s starts where
  ready start hstart := (h.tracked start hstart).ready
  once := h.apart
  sessions hquiet start hstart playerId := by
    have hperm := (h.tracked start hstart).sessions
    have hnone : remainingOf (s.active.get start.number) = [] := by
      rw [(JsMap.size_eq_zero _).mp hquiet]
      rfl
    rw [hnone, List.nil_append] at hperm
    have hcount : start.row.members.keys.count playerId =
        if playerId ∈ start.row.members.keys then 1 else 0 :=
      List.Nodup.count start.row.members.unique
    rw [hperm.count_eq, hcount]
    simp only [JsMap.has_iff]

/-- In a run whose status writes find their rooms as they were read, and whose session
inserts succeed, starts are consistent. -/
theorem start_consistent (maxPlayersPerRoom : Nat) (db : LobbyDb) (hdb : SessionsStarted db)
    (events : List LobbyEvent)
    (hsteps : (recorded maxPlayersPerRoom).StepsMeet (fun p event => Undisturbed p.1 event)
      (start db, []) events) :
    (recorded maxPlayersPerRoom).Along (fun p => StartConsistent p.1 p.2) (start db, []) events := by
  have halong : (recorded maxPlayersPerRoom).Along (fun p => Tracks p.1 p.2 ∧ Checked p.1)
      (start db, []) events := by
    refine Machine.along_of_guarded (L := fun _ => True) ?_ (fun _ _ => trivial)
      ⟨tracks_start hdb, checked_start db⟩ hsteps
    intro p event q h _ hstep hguard
    have hmove := step_cases (Machine.recording_step hstep).1
    exact ⟨h.1.step h.2 hstep hguard, h.2.step hmove⟩
  exact halong.mono fun _ h => h.1.consistent

instance (room : RoomEntity) (row : RoomRow) : Decidable (Stands room row) :=
  decidable_of_iff (row.status = room.status ∧ row.hostId = room.hostId ∧
      (room.members.map RoomMemberEntity.playerId).Perm row.members.keys ∧
      ∀ read ∈ room.members, ∀ member ∈ row.members.get read.playerId,
        read.ready = true → member.ready = true)
    ⟨fun ⟨hstatus, hhost, hmembers, hready⟩ => ⟨hstatus, hhost, hmembers, hready⟩,
      fun h => ⟨h.status, h.hostId, h.members, h.ready⟩⟩

instance (db : LobbyDb) (draw : LobbyDraw) (place : Place) :
    Decidable (OperatesUndisturbed db draw place) := by
  unfold OperatesUndisturbed
  split <;> infer_instance

instance (s : LobbyState) (event : LobbyEvent) : Decidable (Undisturbed s event) := by
  unfold Undisturbed
  split <;> infer_instance

/-- A room with its host, a member who is ready and one who is not. -/
def trio : LobbyDb where
  rooms := JsMap.empty.set "r1" {
    code := "ABCDEF"
    name := "trio"
    hostId := "p1"
    maxPlayers := 4
    status := .waiting
    members := ((JsMap.empty.set "p1" ⟨"m1", false, 0⟩).set "p2" ⟨"m2", true, 1⟩).set "p3"
      ⟨"m3", false, 2⟩ }
  sessions := []
  usernames := (((JsMap.empty.set "p1" "ann").set "p2" "bob").set "p3" "cy").set "p4" "dee"

def inserting (pick : Nat) (rowId : String) : LobbyDraw := ⟨pick, "", "", rowId, 0, none⟩

/-- The last member gets ready while the host starts and an outsider joins; the join finds the
room started, and a member leaves before the sessions are inserted. -/
def startAmongOthers : List LobbyEvent :=
  [.call (.setReady "p3" true) default, .call (.joinRoom "p4" "ABCDEF") default,
    .call (.startGame "p1") default, .operation 0 default, .operation 1 default,
    .operation 0 default, .operation 2 default, .operation 1 default,
    .call (.leaveRoom "p2") default, .operation 3 default, .operation 2 default,
    .operation 1 default, .operation 3 default, .operation 2 (inserting 1 "s1"),
    .operation 2 (inserting 1 "s2"), .operation 2 (inserting 0 "s3")]

theorem trio_sessions : SessionsStarted trio := by
  intro session hsession
  cases hsession

theorem startAmongOthers_consistent :
    ∃ p, (recorded 8).exec (start trio, []) startAmongOthers = some p ∧ p.1.active.size = 0 ∧
      p.2.map Start.number = [2] ∧ sessionsOf p.1.store "r1" = ["p2", "p3", "p1"] ∧
      StartConsistent p.1 p.2 := by
  have hrun : ((recorded 8).exec (start trio, []) startAmongOthers).map (fun p =>
      (p.1.active.size, p.2.map Start.number, sessionsOf p.1.store "r1")) =
        some (0, [2], ["p2", "p3", "p1"]) := by
    decide +kernel
  obtain ⟨p, hexec, hends⟩ := Option.map_eq_some_iff.mp hrun
  simp only [Prod.mk.injEq] at hends
  have hconsistent := start_consistent 8 trio trio_sessions startAmongOthers
    (Machine.stepsMeet_iff_decide.mpr (by decide +kernel))
  exact ⟨p, hexec, hends.1, hends.2.1, hends.2.2, hconsistent.last hexec⟩

theorem solo_sessions : SessionsStarted RoomStatusOrder.solo := by
  intro session hsession
  cases hsession

/-- The host starts twice before the first start is written. -/
def startTwice : List LobbyEvent :=
  [.call (.startGame "p1") default, .operation 0 default, .call (.startGame "p1") default,
    .operation 1 default, .operation 0 default, .operation 1 default]

/-- Not every run has consistent starts: a room is started twice. -/
theorem overlapping_starts_twice : ¬∀ (maxPlayersPerRoom : Nat) (db : LobbyDb),
    SessionsStarted db → ∀ events : List LobbyEvent,
      (recorded maxPlayersPerRoom).Along (fun p => StartConsistent p.1 p.2)
        (start db, []) events := by
  intro h
  have hconsistent := (h 8 RoomStatusOrder.solo solo_sessions startTwice).last rfl
  have honce : ["r1", "r1"].Nodup := hconsistent.once
  exact absurd honce (by decide)

end RealtimeGameServer.Guarantees.StartConsistency
