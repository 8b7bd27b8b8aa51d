import RealtimeGameServer.Guarantees.SessionAccess

/-!
# What a closed room leaves behind

The last member's `leaveRoom` writes CLOSED and returns. Its session, with the timer
that ticks it, is dropped by `destroy` and its session rows are ended by
`endAllForRoom`, and nothing calls either. So closed rooms are torn down all along a
run if and only if every leave that closes a room finds no session for it and no
row that is still ACTIVE or DISCONNECTED. One player who joins the session of a room
and leaves the room again is enough to leave its timer behind.
-/
namespace RealtimeGameServer.Guarantees.RoomTeardown
open Lib Source Source.Rooms Source.LobbyService
open GameSessionManager (Keyed)
open SessionAccess (arena joining leaving oneServer onePlayer)

variable {R : Type}

/-- No session row of the room is live. -/
def RowsEnded (db : LobbyDb) (roomId : String) : Prop :=
  ∀ session ∈ db.sessions, session.roomId = roomId →
    session.status ≠ .active ∧ session.status ≠ .disconnected

/-- Closed rooms have no session, no timer of theirs runs, and their rows are ended. -/
structure TornDown (s : AppContainer R) : Prop where
  sessions : ∀ roomId, IsClosed s.lobby roomId → s.wsGateway.gateway.sessions.get roomId = none
  timers : ∀ roomId, IsClosed s.lobby roomId → ∀ id object,
    s.wsGateway.gateway.sessions.object id = some object → object.session.roomId = roomId →
    object.running = false
  rows : ∀ roomId, IsClosed s.lobby roomId → RowsEnded s.lobby roomId

/-- A leave that takes the last member out of a room finds nothing to tear down. -/
def ClosesCleanly (s : AppContainer R) (event : AppEvent) : Prop :=
  ∀ playerId finding leaving now room row,
    event = .route (.leaveRoom playerId) [.ok finding, .ok leaving] now →
    findByPlayerId s.lobby playerId finding.pick = some room →
    s.lobby.rooms.get room.id = some row → (row.members.delete playerId).size = 0 →
    s.wsGateway.gateway.sessions.get room.id = none ∧ RowsEnded s.lobby room.id

/-- Sessions belong to rooms that are not closed. -/
structure Swept (db : LobbyDb) (g : Gateway R) : Prop where
  keyed : Keyed g.sessions
  sessions : ∀ roomId, IsClosed db roomId → g.sessions.get roomId = none

/-- The invariant between two steps. -/
structure Settled (s : AppContainer R) : Prop where
  quiet : s.wsGateway.Quiet
  swept : Swept s.lobby s.wsGateway.gateway
  rows : ∀ roomId, IsClosed s.lobby roomId → RowsEnded s.lobby roomId

/-- A room without a session has no object, so no timer. -/
theorem Settled.tornDown {s : AppContainer R} (h : Settled s) : TornDown s where
  sessions := h.swept.sessions
  timers roomId hclosed id object hobject hroom := by
    have hget := h.swept.keyed.get id object hobject
    rw [hroom, h.swept.sessions roomId hclosed] at hget
    cases hget
  rows := h.rows

/-- Sessions that are found under the same rooms as before, each with its object. -/
theorem Swept.same {db : LobbyDb} {g g' : Gateway R} (h : Swept db g) (hkeyed : Keyed g'.sessions)
    (hget : ∀ roomId, g'.sessions.get roomId = g.sessions.get roomId) : Swept db g' where
  keyed := hkeyed
  sessions roomId hclosed := (hget roomId).trans (h.sessions roomId hclosed)

theorem not_isClosed_of_admits {db : LobbyDb} {roomId playerId : String} {room : RoomEntity}
    (hfound : findById db roomId = some room) (hadmits : Gateway.Admits playerId room) :
    ¬IsClosed db roomId := by
  rintro ⟨row, hrow, hclosed⟩
  rw [findById, hrow] at hfound
  cases hfound
  exact hadmits.2 hclosed

/-- A session created for a room that is not closed. -/
theorem get_created_of_open {db : LobbyDb} {g : Gateway R} (h : Swept db g) {roomId i : String}
    (hopen : ¬IsClosed db roomId) (hclosed : IsClosed db i) :
    (g.sessions.getOrCreate roomId).1.get i = none := by
  have hne : i ≠ roomId := by
    rintro rfl
    exact hopen hclosed
  rw [GameSessionManager.get_getOrCreate, if_neg hne]
  exact h.sessions i hclosed

theorem swept_rule [Field R] [LinearOrder R] [JsMath R] (env : Env R) (db : LobbyDb) :
    Server.GatewayRule env db (Swept (R := R) db) where
  core g g' hcore h := by
    have hsessions := Gateway.sessions_of_core hcore
    refine h.same ?_ fun roomId => by rw [hsessions]
    rw [hsessions]
    exact h.keyed
  purged g tokens h := ⟨h.keyed, h.sessions⟩
  entered g now uuid socket ctx roomId room h _ _ hfound hadmits := by
    refine ⟨Gateway.keyed_enter h.keyed now uuid socket ctx roomId, fun i hclosed => ?_⟩
    rw [Gateway.get_enter]
    exact get_created_of_open h (not_isClosed_of_admits hfound hadmits) hclosed
  acted g socket ctx roomId session op h _ _ _ _ hop :=
    h.same (h.keyed.modifySession hop.roomId) fun _ => rfl
  registered g socket payload h := by
    have hsessions := Gateway.register_sessions g socket payload
    refine h.same ?_ fun roomId => by rw [hsessions]
    rw [hsessions]
    exact h.keyed
  closed g socket h := by
    obtain ⟨byPlayer, sessions, hcore, hsessions⟩ := Gateway.onClose_core g socket
    have hafter : (g.onClose socket).1.sessions = sessions := congrArg Gateway.sessions hcore
    rcases hsessions with rfl | ⟨session, playerId, assign, rfl⟩
    · refine h.same ?_ fun roomId => by rw [hafter]
      rw [hafter]
      exact h.keyed
    · refine h.same ?_ fun roomId => by rw [hafter]; rfl
      rw [hafter]
      exact h.keyed.modifySession fun s => GameSession.withPlayer_roomId s playerId assign
  ticked g now session object h hobject := by
    have hmodify := GameSessionManager.modifySession_of_object hobject
      fun s => (s.step env now).session
    have hafter : (g.tick env now session object).sessions =
        g.sessions.modifySession session fun s => (s.step env now).session :=
      hmodify ▸ congrArg Gateway.sessions (Gateway.tick_core env g now session object)
    refine h.same ?_ fun roomId => by rw [hafter]; rfl
    rw [hafter]
    exact h.keyed.modifySession fun s => GameSession.step_roomId env now s

/-- Where the tables close no more rooms, sessions of closed rooms stay away. -/
theorem Swept.lobby {db db' : LobbyDb} {g : Gateway R} (h : Swept db g)
    (hclosed : ∀ roomId, IsClosed db' roomId → IsClosed db roomId) : Swept db' g where
  keyed := h.keyed
  sessions roomId hafter := h.sessions roomId (hclosed roomId hafter)

/-- A room that a leave closes had a last member. -/
theorem isClosed_leave {db db' : LobbyDb} {roomId playerId i : String} {draw : LobbyDraw}
    (h : Changes draw db (.leaveRemoveMember roomId playerId) db') (hclosed : IsClosed db' i) :
    IsClosed db i ∨ (i = roomId ∧ ∃ row, db.rooms.get roomId = some row ∧
      (row.members.delete playerId).size = 0) := by
  cases h with
  | same => exact Or.inl hclosed
  | closed found empty =>
    rw [isClosed_withRoom] at hclosed
    split at hclosed
    next heq => exact Or.inr ⟨heq, _, found, empty⟩
    next => exact Or.inl hclosed
  | @left left leaving row hostId found others host =>
    rw [isClosed_withRoom] at hclosed
    split at hclosed
    next heq => exact Or.inl ⟨row, heq ▸ found, hclosed⟩
    next => exact Or.inl hclosed

theorem Settled.leave {maxPlayersPerRoom : Nat} {s : AppContainer R} {playerId : String}
    {draws : List (Except Failure LobbyDraw)} {now : Int} {db : LobbyDb}
    {result : Except Failure LobbyService.Reply} (h : Settled s)
    (hfinish : Calls.finish (program maxPlayersPerRoom)
      (opens maxPlayersPerRoom (.leaveRoom playerId)) draws s.lobby = some (db, result))
    (hguard : ClosesCleanly s (.route (.leaveRoom playerId) draws now)) :
    Settled { s with lobby := db } := by
  have hsessions : db.sessions = s.lobby.sessions :=
    sessions_finish (fun hmethod => by cases hmethod) hfinish
  -- a room that is closed now was closed before or is left by its last member
  have hclosed : ∀ roomId, IsClosed db roomId →
      s.wsGateway.gateway.sessions.get roomId = none ∧ RowsEnded s.lobby roomId := by
    intro roomId hafter
    rcases leaveRoom_cases hfinish with rfl | ⟨finding, leaving, room, rfl, hfound, rfl⟩
    · exact ⟨h.swept.sessions roomId hafter, h.rows roomId hafter⟩
    · rcases isClosed_leave (run_changes _ leaving s.lobby) hafter with
        hbefore | ⟨rfl, row, hrow, hlast⟩
      · exact ⟨h.swept.sessions roomId hbefore, h.rows roomId hbefore⟩
      · exact hguard playerId finding leaving now room row rfl hfound hrow hlast
  constructor
  case quiet => exact h.quiet
  case swept => exact ⟨h.swept.keyed, fun roomId hafter => (hclosed roomId hafter).1⟩
  case rows =>
    intro roomId hafter
    unfold RowsEnded
    rw [hsessions]
    exact (hclosed roomId hafter).2

/-- A call that neither closes rooms nor inserts sessions. -/
theorem Settled.other {maxPlayersPerRoom : Nat} {s : AppContainer R} {call : LobbyService.Call}
    {draws : List (Except Failure LobbyDraw)} {db : LobbyDb}
    {result : Except Failure LobbyService.Reply} (h : Settled s)
    (hleave : call.method ≠ .leaveRoom) (hstart : call.method ≠ .startGame)
    (hfinish : Calls.finish (program maxPlayersPerRoom) (opens maxPlayersPerRoom call) draws
      s.lobby = some (db, result)) : Settled { s with lobby := db } := by
  have hclosed : ∀ roomId, IsClosed db roomId → IsClosed s.lobby roomId :=
    fun _ hafter => isClosed_finish hleave hfinish hafter
  constructor
  case quiet => exact h.quiet
  case swept => exact h.swept.lobby hclosed
  case rows =>
    intro roomId hafter
    unfold RowsEnded
    rw [sessions_finish hstart hfinish]
    exact h.rows roomId (hclosed roomId hafter)

/-- The room that has been started is in progress, the others are as they were. -/
theorem isClosed_started {db db' : LobbyDb} {roomId i : String} (h : Started db db' roomId)
    (hclosed : IsClosed db' i) : i ≠ roomId ∧ IsClosed db i := by
  obtain ⟨row, hrow, hstatus⟩ := hclosed
  have hne : i ≠ roomId := by
    rintro rfl
    obtain ⟨row', hrow', hprogress⟩ := h.inProgress
    cases hrow.symm.trans hrow'
    rw [hprogress] at hstatus
    cases hstatus
  exact ⟨hne, row, (h.others i hne).symm.trans hrow, hstatus⟩

theorem Settled.start [Field R] [JsMath R] {maxPlayersPerRoom : Nat} {s : AppContainer R}
    {playerId : String} {draws : List (Except Failure LobbyDraw)} {now : Int} {db : LobbyDb}
    {result : Except Failure LobbyService.Reply} (h : Settled s)
    (hfinish : Calls.finish (program maxPlayersPerRoom)
      (opens maxPlayersPerRoom (.startGame playerId)) draws s.lobby = some (db, result)) :
    Settled (s.respond (.startGame playerId) now db result) := by
  rcases startGame_cases hfinish with ⟨rfl, hfails⟩ | ⟨roomId, hstarted, hroom⟩
  · cases result with
    | error failure => exact h
    | ok reply => exact absurd rfl (hfails reply)
  · have hrows : ∀ i, IsClosed db i → RowsEnded db i := by
      intro i hclosed session hmem hsame
      obtain ⟨hne, hbefore⟩ := isClosed_started hstarted hclosed
      rcases hstarted.sessions session hmem with hold | hnew
      · exact h.rows i hbefore session hold hsame
      · exact absurd (hsame.symm.trans hnew) hne
    have hswept : Swept db s.wsGateway.gateway :=
      h.swept.lobby fun _ hclosed => (isClosed_started hstarted hclosed).2
    have hkept : Settled { s with lobby := db } := ⟨h.quiet, hswept, hrows⟩
    cases result with
    | error failure => exact hkept
    | ok reply =>
      cases reply with
      | none => exact hkept
      | some room =>
        have hopen : ¬IsClosed db room.id := by
          intro hclosed
          exact (isClosed_started hstarted hclosed).1 (hroom room rfl)
        refine ⟨h.quiet, ⟨?_, fun i hclosed => ?_⟩, hrows⟩
        · exact AppContainer.startRoute_rule (hswept.keyed.getOrCreate room.id)
            fun _ _ playerId username hm =>
              hm.modifySession fun s => GameSession.addPlayer_roomId s now playerId username
        · exact (AppContainer.get_startRoute _ now room i).trans
            (get_created_of_open hswept hopen hclosed)

variable [Field R] [LinearOrder R] [JsMath R]

theorem Settled.step {env : Env R} {rt : Runtime R} {maxPlayersPerRoom : Nat}
    {s t : AppContainer R} {event : AppEvent} (h : Settled s)
    (hstep : s.step env rt maxPlayersPerRoom event = some t)
    (hguard : ClosesCleanly s event) : Settled t := by
  by_cases hroute : ∃ call draws now, event = .route call draws now
  · obtain ⟨call, draws, now, rfl⟩ := hroute
    obtain ⟨⟨db, result⟩, hfinish, rfl⟩ := Option.map_eq_some_iff.mp hstep
    cases call with
    | leaveRoom playerId => exact h.leave hfinish hguard
    | startGame playerId => exact h.start hfinish
    | _ =>
      exact h.other (fun hmethod => by cases hmethod) (fun hmethod => by cases hmethod) hfinish
  · obtain ⟨hlobby, hswept, hquiet⟩ := AppContainer.gateway_step (swept_rule env s.lobby)
      h.quiet h.swept (fun call draws now heq => hroute ⟨call, draws, now, heq⟩) hstep
    refine ⟨hquiet, hlobby ▸ hswept, ?_⟩
    rw [hlobby]
    exact h.rows

/-- A leave that ends with all closed rooms torn down has found nothing to tear down. -/
theorem closesCleanly_of_tornDown {env : Env R} {rt : Runtime R} {maxPlayersPerRoom : Nat}
    {s t : AppContainer R} {event : AppEvent}
    (hstep : s.step env rt maxPlayersPerRoom event = some t) (hafter : TornDown t) :
    ClosesCleanly s event := by
  rintro playerId finding leaving now room row rfl hfound hrow hlast
  obtain ⟨⟨db, result⟩, hfinish, rfl⟩ := Option.map_eq_some_iff.mp hstep
  have hdb := leaveRoom_last hfound hrow hlast hfinish
  have hclosed : IsClosed db room.id := by
    rw [hdb, isClosed_withRoom, if_pos rfl]
    rfl
  have hrows := hafter.rows room.id hclosed
  have hsessions : db.sessions = s.lobby.sessions := by rw [hdb]; rfl
  refine ⟨hafter.sessions room.id hclosed, ?_⟩
  unfold RowsEnded
  rw [← hsessions]
  exact hrows

/-- All along a run closed rooms are torn down if and only if they are at its start
and every leave that closes a room finds nothing to tear down. -/
theorem torn_down_iff (env : Env R) (rt : Runtime R) (maxPlayersPerRoom : Nat) (db : LobbyDb)
    (events : List AppEvent) :
    (AppContainer.machine env rt maxPlayersPerRoom).Along TornDown (AppContainer.start db) events ↔
      TornDown (AppContainer.start (R := R) db) ∧
        (AppContainer.machine env rt maxPlayersPerRoom).StepsMeet ClosesCleanly
          (AppContainer.start db) events := by
  have hexact : TornDown (AppContainer.start (R := R) db) →
      ((AppContainer.machine env rt maxPlayersPerRoom).Along TornDown
        (AppContainer.start db) events ↔
      (AppContainer.machine env rt maxPlayersPerRoom).StepsMeet ClosesCleanly
        (AppContainer.start db) events) := by
    intro hstart
    have hsettled : Settled (AppContainer.start (R := R) db) :=
      ⟨fun _ => rfl, ⟨GameSessionManager.keyed_empty, hstart.sessions⟩, hstart.rows⟩
    refine Machine.along_iff_stepsMeet (L := fun _ => True) (fun _ h => h.tornDown) ?_ ?_
      (fun _ _ => trivial) hsettled
    · intro s event t h _ hstep hguard
      exact h.step hstep hguard
    · intro s event t _ _ hstep hafter
      exact closesCleanly_of_tornDown hstep hafter
  constructor
  · intro halong
    exact ⟨halong.head, (hexact halong.head).mp halong⟩
  · rintro ⟨hstart, hsteps⟩
    exact (hexact hstart).mpr hsteps

/-- The last member's leave closes the room and leaves its session there. -/
theorem closed_room_keeps_session :
    ¬oneServer.Along TornDown (AppContainer.start onePlayer) (joining ++ [leaving]) := by
  intro halong
  have hrun : (oneServer.exec (AppContainer.start onePlayer) (joining ++ [leaving])).map (fun s =>
      ((s.lobby.rooms.get arena).map RoomRow.status,
        s.wsGateway.gateway.sessions.get arena)) = some (some .closed, some 0) := rfl
  obtain ⟨s, hs, hfacts⟩ := Option.map_eq_some_iff.mp hrun
  simp only [Prod.mk.injEq] at hfacts
  obtain ⟨hroom, hsession⟩ := hfacts
  obtain ⟨row, hrow, hstatus⟩ := Option.map_eq_some_iff.mp hroom
  have hnone := (halong.last hs).sessions arena ⟨row, hrow, hstatus⟩
  cases hsession.symm.trans hnone

end RealtimeGameServer.Guarantees.RoomTeardown
