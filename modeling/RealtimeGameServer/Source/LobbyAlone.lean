import RealtimeGameServer.Source.LobbySteps

/-!
# Lobby calls that run alone

The places of a call all belong to one method of the service, so a property of
the tables that the repository calls of that method preserve holds after the
whole call. What the two methods that end a room's life and begin its game do
when they run alone is said in full: `leaveRoom_cases` and `startGame_cases`.
-/
namespace RealtimeGameServer.Source
open Lib Calls Rooms

/-- A player who has a row among the room's members. -/
def IsMember (db : LobbyDb) (roomId playerId : String) : Prop :=
  ∃ row, db.rooms.get roomId = some row ∧ row.members.get playerId ≠ none

/-- A room whose status is CLOSED. -/
def IsClosed (db : LobbyDb) (roomId : String) : Prop :=
  ∃ row, db.rooms.get roomId = some row ∧ row.status = .closed

namespace LobbyService

/-- The methods of the service. -/
inductive Method where
  | createRoom | joinRoom | leaveRoom | setReady | startGame
  deriving DecidableEq, Repr

def Call.method : Call → Method
  | .createRoom _ _ _ => .createRoom
  | .joinRoom _ _ => .joinRoom
  | .leaveRoom _ => .leaveRoom
  | .setReady _ _ => .setReady
  | .startGame _ => .startGame

def Place.method : Place → Method
  | .createFindByPlayer _ _ _ | .createFindByCode _ _ | .createInsert _ => .createRoom
  | .joinFindByPlayer _ _ | .joinFindByCode _ _ | .joinAddMember _ _ => .joinRoom
  | .leaveFindByPlayer _ | .leaveRemoveMember _ _ => .leaveRoom
  | .readyFindByPlayer _ _ | .readySet _ _ _ => .setReady
  | .startFindByPlayer _ | .startUpdateStatus _ | .startCreateSessions _ _ _ _ => .startGame

/-- Where the call goes on, it goes on in the method. -/
def StaysIn (method : Method) (next : Next Place Reply Failure) : Prop :=
  ∀ place, next = .goes place → place.method = method

theorem staysIn_opens (maxPlayersPerRoom : Nat) (call : Call) :
    StaysIn call.method (opens maxPlayersPerRoom call) := by
  intro place h
  cases call with
  | createRoom hostId name maxPlayers =>
    simp only [opens] at h
    split at h <;> cases h
    rfl
  | _ =>
    cases h
    rfl

theorem staysIn_startSessions {roomId : String} {remaining : List RoomMemberEntity}
    {failed : Option Failure} {updated : Reply} :
    StaysIn .startGame (startSessions roomId remaining failed updated) := by
  intro place h
  unfold startSessions at h
  split at h <;> cases h
  rfl

theorem staysIn_answer (place : Place) (draw : LobbyDraw) (result : Option RoomEntity) :
    StaysIn place.method (answer place draw result) := by
  intro next h
  unfold answer at h
  split at h
  all_goals first
    | (cases h; done)
    | (cases h; rfl)
    | exact staysIn_startSessions next h
    | (split at h <;> cases h <;> rfl)

theorem staysIn_run (place : Place) (draw : LobbyDraw) (db : LobbyDb) :
    StaysIn place.method (run place draw db).2 := by
  have hcall : ∀ result, StaysIn place.method (repositoryCall place draw db result).2 := by
    intro result
    cases result with
    | error failure => intro next h; cases h
    | ok value => exact staysIn_answer place draw value.2
  cases place with
  | startCreateSessions roomId remaining failed updated =>
    simp only [run, settleSession]
    split
    next => exact staysIn_startSessions
    next => split <;> exact staysIn_startSessions
  | _ => exact hcall _

/-- What the repository calls of a method preserve, its calls preserve. -/
theorem finish_invariant {I : LobbyDb → Prop} {maxPlayersPerRoom : Nat} {call : Call}
    {draws : List (Except Failure LobbyDraw)} {db db' : LobbyDb} {result : Except Failure Reply}
    (hrun : ∀ place draw db, place.method = call.method → I db → I (run place draw db).1)
    (h0 : I db)
    (h : finish (program maxPlayersPerRoom) (opens maxPlayersPerRoom call) draws db =
      some (db', result)) : I db' := by
  have hrule := finish_rule (T := program maxPlayersPerRoom)
    (I := fun next db => StaysIn call.method next ∧ I db) ?_ ?_
    ⟨staysIn_opens maxPlayersPerRoom call, h0⟩ h
  · exact hrule.2
  · rintro place draw db ⟨hplace, hI⟩
    have hmethod := hplace place rfl
    constructor
    · rw [← hmethod]
      exact staysIn_run place draw db
    · exact hrun place draw db hmethod hI
  · rintro place reason db ⟨-, hI⟩
    refine ⟨?_, hI⟩
    intro next hgoes
    cases hgoes

theorem isMember_withRoom {db : LobbyDb} {changed roomId playerId : String} {row row' : RoomRow}
    (found : db.rooms.get changed = some row)
    (keeps : row.members.get playerId ≠ none → row'.members.get playerId ≠ none)
    (h : IsMember db roomId playerId) : IsMember (withRoom db changed row') roomId playerId := by
  obtain ⟨old, hold, hmember⟩ := h
  by_cases hroom : roomId = changed
  · subst hroom
    cases found.symm.trans hold
    exact ⟨row', (get_withRoom _ _ _ _).trans (if_pos rfl), keeps hmember⟩
  · exact ⟨old, (get_withRoom _ _ _ _).trans ((if_neg hroom).trans hold), hmember⟩

/-- Only a leave takes a player out of a room. -/
theorem isMember_changes {place : Place} {draw : LobbyDraw} {db db' : LobbyDb}
    (h : Changes draw db place db') {roomId playerId : String}
    (hmember : IsMember db roomId playerId) :
    IsMember db' roomId playerId ∨ place = .leaveRemoveMember roomId playerId := by
  have hleaves : ∀ {leaving : String} {left : String} {row row' : RoomRow},
      db.rooms.get left = some row → row'.members = row.members.delete leaving →
      IsMember (withRoom db left row') roomId playerId ∨
        Place.leaveRemoveMember left leaving = .leaveRemoveMember roomId playerId := by
    intro leaving left row row' found hmembers
    by_cases hplayer : playerId = leaving
    · by_cases hroom : roomId = left
      · exact Or.inr (by rw [hplayer, hroom])
      · obtain ⟨old, hold, hget⟩ := hmember
        exact Or.inl ⟨old, (get_withRoom _ _ _ _).trans ((if_neg hroom).trans hold), hget⟩
    · refine Or.inl (isMember_withRoom found (fun hget => ?_) hmember)
      rw [hmembers, JsMap.get_delete, if_neg hplayer]
      exact hget
  cases h with
  | same => exact Or.inl hmember
  | created fresh =>
    obtain ⟨row, hrow, hget⟩ := hmember
    have hne : roomId ≠ draw.roomId := by
      intro heq
      cases (heq ▸ hrow).symm.trans fresh
    exact Or.inl ⟨row, (get_withRoom _ _ _ _).trans ((if_neg hne).trans hrow), hget⟩
  | @joined joinedRoom joining row found waiting space absent =>
    refine Or.inl (isMember_withRoom found (fun hget => ?_) hmember)
    rw [addTo, JsMap.get_set]
    split
    next => exact Option.some_ne_none _
    next => exact hget
  | closed found empty => exact hleaves found rfl
  | left found others host => exact hleaves found rfl
  | @readied readyRoom readyPlayer ready row found =>
    refine Or.inl (isMember_withRoom found (fun hget => ?_) hmember)
    unfold setReadyOf
    split
    next => exact hget
    next =>
      rw [JsMap.get_set]
      split
      next => exact Option.some_ne_none _
      next => exact hget
  | started found => exact Or.inl (isMember_withRoom found id hmember)
  | sessionCreated picked => exact Or.inl hmember

theorem isClosed_withRoom {db : LobbyDb} {changed roomId : String} {row : RoomRow} :
    IsClosed (withRoom db changed row) roomId ↔
      if roomId = changed then row.status = .closed else IsClosed db roomId := by
  simp only [IsClosed, get_withRoom]
  split
  next =>
    constructor
    · rintro ⟨row', hrow', hclosed⟩
      cases hrow'
      exact hclosed
    · exact fun hclosed => ⟨row, rfl, hclosed⟩
  next => rfl

/-- Only a leave closes a room. -/
theorem isClosed_changes {place : Place} {draw : LobbyDraw} {db db' : LobbyDb}
    (h : Changes draw db place db') {roomId : String} (hclosed : IsClosed db' roomId) :
    IsClosed db roomId ∨ place.method = .leaveRoom := by
  have hkeeps : ∀ {changed : String} {row row' : RoomRow}, db.rooms.get changed = some row →
      IsClosed (withRoom db changed row') roomId →
      (row'.status = .closed → row.status = .closed) → IsClosed db roomId := by
    intro changed row row' found hafter hstatus
    rw [isClosed_withRoom] at hafter
    split at hafter
    next heq => exact ⟨row, heq ▸ found, hstatus hafter⟩
    next => exact hafter
  cases h with
  | same => exact Or.inl hclosed
  | created fresh =>
    rw [isClosed_withRoom] at hclosed
    split at hclosed
    next => cases hclosed
    next => exact Or.inl hclosed
  | joined found => exact Or.inl (hkeeps found hclosed id)
  | closed found empty => exact Or.inr rfl
  | left found others host => exact Or.inr rfl
  | readied found =>
    refine Or.inl (hkeeps found hclosed fun hstatus => ?_)
    unfold setReadyOf at hstatus
    split at hstatus <;> exact hstatus
  | started found => exact Or.inl (hkeeps found hclosed fun hstatus => by cases hstatus)
  | sessionCreated picked => exact Or.inl hclosed

/-- A call other than `leaveRoom` takes no player out of a room. -/
theorem isMember_finish {maxPlayersPerRoom : Nat} {call : Call}
    {draws : List (Except Failure LobbyDraw)} {db db' : LobbyDb}
    {result : Except Failure Reply} (hcall : call.method ≠ .leaveRoom)
    (h : finish (program maxPlayersPerRoom) (opens maxPlayersPerRoom call) draws db =
      some (db', result)) {roomId playerId : String} (hmember : IsMember db roomId playerId) :
    IsMember db' roomId playerId := by
  refine finish_invariant (I := fun db => IsMember db roomId playerId) ?_ hmember h
  intro place draw db hplace hold
  rcases isMember_changes (run_changes place draw db) hold with hkept | rfl
  · exact hkept
  · exact absurd hplace.symm hcall

/-- A call other than `leaveRoom` closes no room. -/
theorem isClosed_finish {maxPlayersPerRoom : Nat} {call : Call}
    {draws : List (Except Failure LobbyDraw)} {db db' : LobbyDb} {result : Except Failure Reply}
    (hcall : call.method ≠ .leaveRoom)
    (h : finish (program maxPlayersPerRoom) (opens maxPlayersPerRoom call) draws db =
      some (db', result)) {roomId : String} (hclosed : IsClosed db' roomId) :
    IsClosed db roomId := by
  refine finish_invariant (I := fun now => IsClosed now roomId → IsClosed db roomId) ?_ id h hclosed
  intro place draw now hplace hold hafter
  rcases isClosed_changes (run_changes place draw now) hafter with hbefore | hleave
  · exact hold hbefore
  · exact absurd (hplace.symm.trans hleave) hcall

/-- A call other than `startGame` inserts no session. -/
theorem sessions_finish {maxPlayersPerRoom : Nat} {call : Call}
    {draws : List (Except Failure LobbyDraw)} {db db' : LobbyDb} {result : Except Failure Reply}
    (hcall : call.method ≠ .startGame)
    (h : finish (program maxPlayersPerRoom) (opens maxPlayersPerRoom call) draws db =
      some (db', result)) : db'.sessions = db.sessions := by
  refine finish_invariant (I := fun now => now.sessions = db.sessions) ?_ rfl h
  intro place draw now hplace hold
  refine (sessions_run draw now ?_).trans hold
  rintro roomId remaining failed updated rfl
  exact hcall hplace.symm

/-- `leaveRoom` alone: no table changes, or the player leaves the room found. -/
theorem leaveRoom_cases {maxPlayersPerRoom : Nat} {playerId : String}
    {draws : List (Except Failure LobbyDraw)} {db db' : LobbyDb} {result : Except Failure Reply}
    (h : finish (program maxPlayersPerRoom) (opens maxPlayersPerRoom (.leaveRoom playerId)) draws
      db = some (db', result)) :
    db' = db ∨ ∃ finding leaving room, draws = [.ok finding, .ok leaving] ∧
      findByPlayerId db playerId finding.pick = some room ∧
      db' = (run (.leaveRemoveMember room.id playerId) leaving db).1 := by
  cases draws with
  | nil => cases h
  | cons draw rest =>
    cases draw with
    | error reason => exact Or.inl (finish_throws h).2.1
    | ok finding =>
      have hrun : (program maxPlayersPerRoom).run (.leaveFindByPlayer playerId) finding db =
          (db, answer (.leaveFindByPlayer playerId) finding
            (findByPlayerId db playerId finding.pick)) := rfl
      have hrest : finish (program maxPlayersPerRoom) (answer (.leaveFindByPlayer playerId) finding
          (findByPlayerId db playerId finding.pick)) rest db = some (db', result) := h
      cases hfound : findByPlayerId db playerId finding.pick with
      | none =>
        rw [hfound] at hrest
        exact Or.inl (finish_throws hrest).2.1
      | some room =>
        rw [hfound] at hrest
        cases rest with
        | nil => cases hrest
        | cons draw rest =>
          cases draw with
          | error reason => exact Or.inl (finish_throws hrest).2.1
          | ok leaving =>
            -- the second repository call is the last one
            have hlast : finish (program maxPlayersPerRoom)
                (run (.leaveRemoveMember room.id playerId) leaving db).2 rest
                (run (.leaveRemoveMember room.id playerId) leaving db).1 = some (db', result) := hrest
            have hend : rest = [] ∧ db' = (run (.leaveRemoveMember room.id playerId) leaving db).1 := by
              cases hcall : removeMember db room.id playerId with
              | error failure =>
                simp only [run, repositoryCall, hcall] at hlast ⊢
                exact ⟨(finish_throws hlast).1, (finish_throws hlast).2.1⟩
              | ok value =>
                simp only [run, repositoryCall, hcall, answer] at hlast ⊢
                exact ⟨(finish_returns hlast).1, (finish_returns hlast).2.1⟩
            obtain ⟨rfl, hdb⟩ := hend
            exact Or.inr ⟨finding, leaving, room, rfl, hfound, hdb⟩

/-- `leaveRoom` alone, of a room's last member. -/
theorem leaveRoom_last {maxPlayersPerRoom : Nat} {playerId : String} {finding leaving : LobbyDraw}
    {db db' : LobbyDb} {result : Except Failure Reply} {room : RoomEntity} {row : RoomRow}
    (hfound : findByPlayerId db playerId finding.pick = some room)
    (hrow : db.rooms.get room.id = some row) (hlast : (row.members.delete playerId).size = 0)
    (h : finish (program maxPlayersPerRoom) (opens maxPlayersPerRoom (.leaveRoom playerId))
      [.ok finding, .ok leaving] db = some (db', result)) :
    db' = withRoom db room.id (setStatus .closed (removeFrom playerId row)) := by
  have hfind : run (.leaveFindByPlayer playerId) finding db =
      (db, .goes (.leaveRemoveMember room.id playerId)) := by
    simp only [run, repositoryCall, hfound, answer]
  have hremove : run (.leaveRemoveMember room.id playerId) leaving db =
      (withRoom db room.id (setStatus .closed (removeFrom playerId row)), .returns none) := by
    simp only [run, removeMember, hrow, hlast, if_true, repositoryCall, updateRoom_eq hrow,
      updateRoom_withRoom, answer]
  simp only [opens, finish, program, hfind, hremove, Option.some.injEq, Prod.mk.injEq] at h
  exact h.1.symm

/-- The room is in progress, all others are as they were, and the new sessions are
of this room. -/
structure Started (db db' : LobbyDb) (roomId : String) : Prop where
  inProgress : ∃ row, db'.rooms.get roomId = some row ∧ row.status = .inProgress
  others : ∀ i, i ≠ roomId → db'.rooms.get i = db.rooms.get i
  sessions : ∀ session ∈ db'.sessions, session ∈ db.sessions ∨ session.roomId = roomId

/-- What a `startGame` that runs alone has done, at each of its places. -/
def Starting (db : LobbyDb) : Next Place Reply Failure → LobbyDb → Prop
  | .goes (.startFindByPlayer _), now => now = db
  | .goes (.startUpdateStatus _), now => now = db
  | .goes (.startCreateSessions roomId _ _ updated), now =>
    Started db now roomId ∧ ∀ room, updated = some room → room.id = roomId
  | .goes _, _ => False
  | .returns reply, now =>
    ∃ roomId, Started db now roomId ∧ ∀ room, reply = some room → room.id = roomId
  | .throws _, now => now = db ∨ ∃ roomId, Started db now roomId

theorem starting_startSessions {db now : LobbyDb} {roomId : String}
    {remaining : List RoomMemberEntity} {failed : Option Failure} {updated : Reply}
    (hstarted : Started db now roomId) (hroom : ∀ room, updated = some room → room.id = roomId) :
    Starting db (startSessions roomId remaining failed updated) now := by
  unfold startSessions
  split
  next => exact ⟨roomId, hstarted, hroom⟩
  next => exact Or.inr ⟨roomId, hstarted⟩
  next => exact ⟨hstarted, hroom⟩

theorem starting_run {db now : LobbyDb} {place : Place} (draw : LobbyDraw)
    (h : Starting db (.goes place) now) :
    Starting db (run place draw now).2 (run place draw now).1 := by
  cases place with
  | startFindByPlayer playerId =>
    cases h
    cases hfound : findByPlayerId db playerId draw.pick with
    | none =>
      simp only [run, repositoryCall, hfound, answer]
      exact Or.inl rfl
    | some room =>
      simp only [run, repositoryCall, hfound, answer]
      cases checkStart playerId room with
      | error failure => exact Or.inl rfl
      | ok => rfl
  | startUpdateStatus room =>
    cases h
    cases hrow : db.rooms.get room.id with
    | none =>
      have hthrows : run (.startUpdateStatus room) draw db = (db, .throws .recordNotFound) := by
        simp only [run, updateStatus, updateRoom, hrow, readBack, repositoryCall]
      rw [hthrows]
      exact Or.inl rfl
    | some row =>
      rw [run_startUpdateStatus draw hrow]
      refine starting_startSessions ⟨⟨_, (get_withRoom _ _ _ _).trans (if_pos rfl), rfl⟩, ?_, ?_⟩ ?_
      · intro i hne
        exact (get_withRoom _ _ _ _).trans (if_neg hne)
      · exact fun session hsession => Or.inl hsession
      · rintro room' hroom'
        cases hroom'
        rfl
  | startCreateSessions roomId remaining failed updated =>
    obtain ⟨hstarted, hroom⟩ := h
    simp only [run, settleSession]
    split
    next => exact starting_startSessions hstarted hroom
    next member hpicked =>
      split
      next => exact starting_startSessions hstarted hroom
      next after hcreate =>
        unfold createSession at hcreate
        split at hcreate <;> cases hcreate
        refine starting_startSessions ⟨hstarted.inProgress, hstarted.others, ?_⟩ hroom
        intro session hsession
        rcases List.mem_append.mp hsession with hold | hnew
        · exact hstarted.sessions session hold
        · cases List.mem_singleton.mp hnew
          exact Or.inr rfl
  | _ => exact h.elim

/-- `startGame` alone: no table changes and no room is returned, or one room is
started, the one returned. -/
theorem startGame_cases {maxPlayersPerRoom : Nat} {playerId : String}
    {draws : List (Except Failure LobbyDraw)} {db db' : LobbyDb} {result : Except Failure Reply}
    (h : finish (program maxPlayersPerRoom) (opens maxPlayersPerRoom (.startGame playerId)) draws
      db = some (db', result)) :
    (db' = db ∧ ∀ reply, result ≠ .ok reply) ∨
    ∃ roomId, Started db db' roomId ∧ ∀ room, result = .ok (some room) → room.id = roomId := by
  have hstarting : Starting db (outcome result) db' := by
    refine finish_rule (T := program maxPlayersPerRoom) (I := Starting db) ?_ ?_ ?_ h
    · exact fun place draw now hplace => starting_run draw hplace
    · intro place reason now hplace
      cases place with
      | startFindByPlayer => exact Or.inl hplace
      | startUpdateStatus => exact Or.inl hplace
      | startCreateSessions => exact Or.inr ⟨_, hplace.1⟩
      | _ => exact hplace.elim
    · rfl
  cases result with
  | error failure =>
    rcases hstarting with heq | ⟨roomId, hstarted⟩
    · exact Or.inl ⟨heq, nofun⟩
    · exact Or.inr ⟨roomId, hstarted, nofun⟩
  | ok reply =>
    obtain ⟨roomId, hstarted, hroom⟩ := hstarting
    exact Or.inr ⟨roomId, hstarted, fun room hresult => hroom room (Except.ok.inj hresult)⟩

end LobbyService
end RealtimeGameServer.Source
