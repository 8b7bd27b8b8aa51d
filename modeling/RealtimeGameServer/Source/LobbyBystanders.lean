import RealtimeGameServer.Lib.Bystanders
import RealtimeGameServer.Source.LobbyTransactions

/-!
# Whose membership a lobby call changes

Every lobby call is a player's, and inserts, deletes and updates rows of `room_members` of
that player only; a room it closes, hands over or starts keeps its members
(`lobby_bystander`).
-/
namespace RealtimeGameServer.Source.LobbyStatements
open Lib Calls ReadCommitted Rooms LobbyService

/-- The player who makes a call. -/
def callPlayer : LobbyService.Call → String
  | .createRoom hostId _ _ => hostId
  | .joinRoom playerId _ => playerId
  | .leaveRoom playerId => playerId
  | .setReady playerId _ => playerId
  | .startGame playerId => playerId

/-- The place is another player's, or writes no membership from here on. -/
def PlaceAway (player : String) : Place → Prop
  | .createFindByPlayer hostId _ _ => hostId ≠ player
  | .createFindByCode input _ | .createInsert input => input.hostId ≠ player
  | .joinFindByPlayer playerId _ | .joinFindByCode playerId _ | .joinAddMember _ playerId
  | .leaveFindByPlayer playerId | .leaveRemoveMember _ playerId
  | .readyFindByPlayer playerId _ | .readySet _ playerId _ => playerId ≠ player
  | .startFindByPlayer _ | .startUpdateStatus _ | .startCreateSessions _ _ _ _ => True

def StageAway (player : String) : Stage → Prop
  | .createRoomRow input | .createHostRow input => input.hostId ≠ player
  | .addFind _ playerId | .addFindMembers _ playerId _ | .addInsert _ playerId
  | .removeFind _ playerId | .removeDelete _ playerId _ | .removeCount _ playerId _
  | .readyFind _ playerId _ | .readyUpdate _ playerId _ _ => playerId ≠ player
  | _ => True

def Away (player : String) : Pc → Prop
  | .runs place _ stage | .commits place _ stage => PlaceAway player place ∧ StageAway player stage
  | .done _ => True

def Quiet (player : String) (effect : Effect) : Prop :=
  ∀ roomId, touches effect ≠ .member roomId player

/-- The rows of a player in the rooms. -/
def seats (player : String) (db : LobbyDb) (roomId : String) : Option MemberRow :=
  memberAt db roomId player

variable {player : String}

theorem first_away {place : Place} (h : PlaceAway player place) : StageAway player (first place) := by
  cases place with
  | createInsert | joinAddMember | leaveRemoveMember | readySet => exact h
  | _ => trivial

theorem startSessions_away {roomId : String} {remaining : List RoomMemberEntity}
    {failed : Option Failure} {updated : Reply} {next : Place}
    (h : startSessions roomId remaining failed updated = .goes next) : PlaceAway player next := by
  unfold startSessions at h
  split at h <;> cases h
  trivial

/-- A call goes on as the same player's. -/
theorem answer_away {place next : Place} {draw : LobbyDraw} {result : Option RoomEntity}
    (haway : PlaceAway player place) (h : answer place draw result = .goes next) :
    PlaceAway player next := by
  cases place with
  | createFindByPlayer | joinFindByPlayer | joinFindByCode | leaveFindByPlayer =>
    cases result <;> cases h
    exact haway
  | createFindByCode input attempt =>
    cases result with
    | none =>
      cases h
      exact haway
    | some room =>
      simp only [answer] at h
      split at h <;> cases h <;> exact haway
  | readyFindByPlayer playerId ready =>
    cases result with
    | none => cases h
    | some room =>
      simp only [answer] at h
      split at h <;> cases h
      exact haway
  | startFindByPlayer playerId =>
    cases result with
    | none => cases h
    | some room =>
      simp only [answer] at h
      split at h <;> cases h
      trivial
  | startUpdateStatus room => exact startSessions_away h
  | startCreateSessions roomId remaining failed updated => exact startSessions_away h
  | createInsert | joinAddMember | leaveRemoveMember | readySet => cases h

theorem opens_away {maxPlayersPerRoom : Nat} {call : LobbyService.Call} {place : Place}
    (hother : callPlayer call ≠ player)
    (h : LobbyService.opens maxPlayersPerRoom call = .goes place) : PlaceAway player place := by
  cases call with
  | createRoom hostId name maxPlayers =>
    simp only [LobbyService.opens] at h
    split at h <;> cases h
    exact hother
  | startGame playerId =>
    cases h
    trivial
  | _ =>
    cases h
    exact hother

def Pc.place? : Pc → Option Place
  | .runs place _ _ | .commits place _ _ => some place
  | .done _ => none

theorem proceed_place {effects effects' : List Effect} {draws : List LobbyDraw}
    {next : Next Place Reply Failure} {pc : Pc} (h : proceed effects draws next = .continues effects' pc)
    {place : Place} (hplace : pc.place? = some place) : next = .goes place := by
  cases next with
  | goes following =>
    cases h
    cases hplace
    rfl
  | returns reply =>
    cases h
    cases hplace
  | throws failure => cases h

/-- A statement leaves its call at its place, or takes it to a place of the same player. -/
theorem runStage_place {place next : Place} {draws : List LobbyDraw} {db : LobbyDb} {stage : Stage}
    {effects : List Effect} {pc : Pc} (haway : PlaceAway player place)
    (h : runStage place draws stage db = .continues effects pc) (hnext : pc.place? = some next) :
    PlaceAway player next := by
  have hstays : ∀ {draws' stage'}, pc = .runs place draws' stage' ∨ pc = .commits place draws' stage' →
      PlaceAway player next := by
    rintro draws' stage' (rfl | rfl) <;> cases hnext <;> exact haway
  have hresolves : ∀ {effects' result}, proceed effects' draws.tail
      (answer place (draws.headD default) result) = .continues effects pc → PlaceAway player next :=
    fun hproceed => answer_away haway (proceed_place hproceed hnext)
  cases stage with
  | findMembership | findByCode =>
    simp only [runStage] at h
    split at h
    next => exact hresolves h
    next =>
      cases h
      exact hstays (Or.inl rfl)
  | removeClose =>
    simp only [runStage] at h
    split at h
    next => exact hresolves h
    next => cases h
  | readMembers => exact hresolves h
  | createHostRow | addInsert =>
    obtain ⟨-, -, rfl⟩ := insertMember_continues h
    exact hstays (Or.inl rfl)
  | removeDelete =>
    cases h
    exact hstays (Or.inl rfl)
  | createRoomRow | removeCount =>
    simp only [runStage] at h
    split at h
    next => cases h <;> exact hstays (Or.inl rfl)
    next => split at h <;> cases h <;> exact hstays (Or.inl rfl)
  | readyFind | readyUpdate =>
    simp only [runStage] at h
    split at h <;> cases h
    exact hstays (Or.inr rfl)
  | insertSession =>
    simp only [runStage, settleSession] at h
    split at h
    next => exact startSessions_away (proceed_place h hnext)
    next =>
      split at h
      next => exact startSessions_away (proceed_place h hnext)
      next =>
        split at h
        next =>
          cases h
          cases hnext
          trivial
        next => exact startSessions_away (proceed_place h hnext)
  | _ =>
    simp only [runStage] at h
    split at h <;> cases h <;> exact hstays (Or.inl rfl)

theorem leads_away {stage next : Stage} (haway : StageAway player stage) (h : Leads stage next) :
    StageAway player next := by
  cases h with
  | addRead | addChecked | removeRead => exact haway
  | _ => trivial

theorem runStage_away {place : Place} {draws : List LobbyDraw} {db : LobbyDb} {stage : Stage}
    {effects : List Effect} {pc : Pc} (hplace : PlaceAway player place)
    (hstage : StageAway player stage) (h : runStage place draws stage db = .continues effects pc) :
    Away player pc ∧ ∀ effect ∈ effects, Quiet player effect := by
  have hnext : ∀ next, pc.place? = some next → PlaceAway player next :=
    fun next => runStage_place hplace h
  have hends : Ends place draws pc → Away player pc := by
    intro hends
    cases hends with
    | goes => exact ⟨hnext _ rfl, first_away (hnext _ rfl)⟩
    | returns => trivial
  have hmember : ∀ {roomId playerId : String}, playerId ≠ player →
      ∀ roomId', Lock.member roomId playerId ≠ .member roomId' player := by
    intro roomId playerId hne roomId' heq
    exact hne (Lock.member.inj heq).2
  have hroom : ∀ {roomId : String} (roomId' : String), Lock.room roomId ≠ .member roomId' player := by
    intro roomId roomId' heq
    cases heq
  have hnone : ∀ effect ∈ ([] : List Effect), Quiet player effect := fun _ hmem => by cases hmem
  have hsingle : ∀ {written : Effect}, Quiet player written →
      ∀ effect ∈ [written], Quiet player effect := by
    intro written hquiet effect hmem
    rw [List.mem_singleton.mp hmem]
    exact hquiet
  cases runStage_continues h with
  | leads leads => exact ⟨⟨hplace, leads_away hstage leads⟩, hnone⟩
  | notFound ends | noCode ends | resolved ends | notSettled ends => exact ⟨hends ends, hnone⟩
  | roomCreated => exact ⟨⟨hplace, hstage⟩, hsingle hroom⟩
  | hostInserted | memberInserted => exact ⟨⟨hplace, trivial⟩, hsingle fun roomId => hmember hstage roomId⟩
  | memberDeleted =>
    refine ⟨⟨hplace, hstage⟩, fun effect hmem => ?_⟩
    unfold deletes at hmem
    split at hmem
    next =>
      rw [List.mem_singleton.mp hmem]
      exact hmember hstage
    next => cases hmem
  | closed _ ends => exact ⟨hends ends, hsingle hroom⟩
  | handedOver | statusUpdated => exact ⟨⟨hplace, trivial⟩, hsingle hroom⟩
  | membershipFound => exact ⟨⟨hplace, hstage⟩, hnone⟩
  | readied => exact ⟨⟨hplace, trivial⟩, hsingle fun roomId => hmember hstage roomId⟩
  | settled _ ends => exact ⟨hends ends, hsingle fun roomId heq => by cases heq⟩

theorem lobby_bystander (maxPlayersPerRoom : Nat) (player : String) :
    ReadCommitted.Bystander (protocol maxPlayersPerRoom)
      (fun drawn => callPlayer drawn.call ≠ player) (Away player) (Quiet player) (seats player) where
  opened drawn pc hother h := by
    simp only [protocol, opens] at h
    split at h
    next place hopens =>
      cases h
      have haway := opens_away hother hopens
      exact ⟨haway, first_away haway⟩
    next =>
      cases h
      trivial
    next => cases h
  ran pc db effects next haway h := by
    cases pc with
    | runs place draws stage => exact runStage_away haway.1 haway.2 h
    | commits place draws stage =>
      cases h
      exact ⟨haway, fun _ hmem => by cases hmem⟩
    | done reply =>
      cases h
      exact ⟨trivial, fun _ hmem => by cases hmem⟩
  proceeded pc next haway h := by
    cases pc with
    | commits place draws stage =>
      cases h
      exact haway
    | _ => cases h
  kept db effect hquiet := by
    funext roomId
    exact congrArg Prod.snd (frame db effect (.member roomId player) (hquiet roomId))

end RealtimeGameServer.Source.LobbyStatements
