import RealtimeGameServer.Source.AppSteps
import RealtimeGameServer.Source.RealMotion

/-!
# Who sees and moves in a room

Membership is a row in the lobby's tables, the room of a socket a field of its
context, and the player an entry of the room's session. `joinSession` checks the
membership once; `leaveRoom` deletes the row and tells neither the gateway nor the
session. In runs in which a player leaves a room only after the sockets and the
queued inputs of that player have left it, snapshots reach members only and only
members' inputs are queued and applied. One leave with the socket open is enough
for a former member to go on receiving them.
-/
namespace RealtimeGameServer.Guarantees.SessionAccess
open Lib Source Source.Rooms Source.LobbyService
open GameSessionManager (Keyed Each)

variable {R : Type} [Field R] [LinearOrder R] [JsMath R]

/-- What the step of an event gives a player of a room: a snapshot or delta of the
room is sent to a socket of the player, an input of the player is queued in the
room's session, or one is validated there and applied. -/
inductive Access (env : Env R) (s t : AppContainer R) : AppEvent → String → String → Prop
  | broadcast {session : SessionId} {now : Int} {object : SessionObject R} {socket : SocketId}
      {message : SnapshotMessage R} {ctx : SocketContext}
      (of : s.wsGateway.gateway.sessions.object session = some object)
      (sent : (socket, .snapshot message) ∈
        t.wsGateway.gateway.sent.drop s.wsGateway.gateway.sent.length)
      (context : s.wsGateway.gateway.contexts.get socket = some ctx) :
      Access env s t (.tick session now) object.session.roomId ctx.playerId
  | enqueued {socket : SocketId} {raw : String} {replies : List CallReply} {id : SessionId}
      {before after : SessionObject R} {playerId : String} {input : MovementInput R}
      (of : s.wsGateway.gateway.sessions.object id = some before)
      (becomes : t.wsGateway.gateway.sessions.object id = some after)
      (queued : before.session.enqueueInput playerId input = (after.session, true)) :
      Access env s t (.frame socket raw replies) before.session.roomId playerId
  | applied {session : SessionId} {now : Int} {object : SessionObject R} {v : Validation R}
      (of : s.wsGateway.gateway.sessions.object session = some object)
      (validated : v ∈ (object.session.step env now).validations) :
      Access env s t (.tick session now) object.session.roomId v.playerId

/-- The step gives access to members of the room only. -/
def MembersOnly (env : Env R) (rt : Runtime R) (maxPlayersPerRoom : Nat) (s : AppContainer R)
    (event : AppEvent) : Prop :=
  ∀ t, s.step env rt maxPlayersPerRoom event = some t →
    ∀ roomId playerId, Access env s t event roomId playerId → IsMember s.lobby roomId playerId

/-- Nothing in the gateway still ties the player to the room. -/
structure Detached (g : Gateway R) (roomId playerId : String) : Prop where
  sockets : ∀ socket ctx, g.registered socket = some ctx → ctx.playerId = playerId →
    ctx.roomId ≠ some roomId
  inputs : ∀ id object, g.sessions.object id = some object → object.session.roomId = roomId →
    object.session.queueOf playerId = []

/-- A leave finds its player detached from the room it finds. -/
def LeavesDetached (s : AppContainer R) (event : AppEvent) : Prop :=
  ∀ playerId finding leaving now room,
    event = .route (.leaveRoom playerId) [.ok finding, .ok leaving] now →
    findByPlayerId s.lobby playerId finding.pick = some room →
    Detached s.wsGateway.gateway room.id playerId

/-- Only members have queued inputs. -/
def QueuesMembers (db : LobbyDb) (session : GameSession R) : Prop :=
  ∀ playerId, session.queueOf playerId ≠ [] → IsMember db session.roomId playerId

/-- Rooms of registered sockets and queued inputs belong to members. -/
structure Attached (db : LobbyDb) (g : Gateway R) : Prop where
  joined : ∀ socket ctx roomId, g.registered socket = some ctx → ctx.roomId = some roomId →
    IsMember db roomId ctx.playerId
  queued : Each (QueuesMembers db) g.sessions
  keyed : Keyed g.sessions

section Frames
omit [Field R] [LinearOrder R] [JsMath R]

theorem attached_core {db : LobbyDb} {g : Gateway R} : Attached db g.core ↔ Attached db g := by
  constructor
  · exact fun h => ⟨h.joined, h.queued, h.keyed⟩
  · exact fun h => ⟨h.joined, h.queued, h.keyed⟩

/-- More members do no harm. -/
theorem Attached.mono {db db' : LobbyDb} {g : Gateway R} (h : Attached db g)
    (hmembers : ∀ roomId playerId, IsMember db roomId playerId → IsMember db' roomId playerId) :
    Attached db' g where
  joined socket ctx roomId hctx hroom := hmembers _ _ (h.joined socket ctx roomId hctx hroom)
  queued id o ho playerId hqueue := hmembers _ _ (h.queued id o ho playerId hqueue)
  keyed := h.keyed

theorem isMember_of_admits {db : LobbyDb} {roomId playerId : String} {room : RoomEntity}
    (hfound : findById db roomId = some room) (hadmits : Gateway.Admits playerId room) :
    IsMember db roomId playerId := by
  obtain ⟨row, hrow, rfl⟩ := Option.map_eq_some_iff.mp hfound
  obtain ⟨member, hmember, hplayer⟩ := List.any_eq_true.mp hadmits.1
  obtain ⟨memberRow, hget, -⟩ := mem_membersOf.mp hmember
  have hsame : member.playerId = playerId := of_decide_eq_true hplayer
  refine ⟨row, hrow, ?_⟩
  rw [← hsame, hget]
  exact Option.some_ne_none _

theorem queuesMembers_withPlayer {db : LobbyDb} {session : GameSession R}
    (h : QueuesMembers db session) (playerId : String)
    (assign : RuntimePlayerState R → RuntimePlayerState R) :
    QueuesMembers db (session.withPlayer playerId assign) := by
  intro p hqueue
  rw [GameSession.withPlayer_roomId]
  refine h p ?_
  rwa [GameSession.queueOf, GameSession.withPlayer_pendingInputs] at hqueue

theorem queuesMembers_op {db : LobbyDb} {session : GameSession R} {playerId : String}
    {op : GameSession R → GameSession R} (h : QueuesMembers db session)
    (hop : Gateway.PlayerOp playerId op) (hmember : IsMember db session.roomId playerId) :
    QueuesMembers db (op session) := by
  cases hop with
  | input input =>
    intro p hqueue
    rw [GameSession.enqueueInput_roomId]
    by_cases hp : p = playerId
    · rw [hp]
      exact hmember
    · rw [GameSession.queueOf_enqueueInput_of_ne session hp] at hqueue
      exact h p hqueue
  | assign assign => exact queuesMembers_withPlayer h playerId assign

end Frames

omit [LinearOrder R] in
theorem queuesMembers_addPlayer {db : LobbyDb} {session : GameSession R}
    (h : QueuesMembers db session) (now : Int) (playerId username : String) :
    QueuesMembers db (session.addPlayer now playerId username) := by
  intro p hqueue
  rw [GameSession.addPlayer_roomId]
  refine h p fun hempty => hqueue ?_
  exact GameSession.queueOf_addPlayer session now playerId username hempty

theorem queuesMembers_step {db : LobbyDb} {session : GameSession R} (h : QueuesMembers db session)
    (env : Env R) (now : Int) : QueuesMembers db (session.step env now).session := by
  intro p hqueue
  rw [GameSession.step_roomId]
  refine h p fun hempty => hqueue ?_
  exact GameSession.queueOf_step env now session hempty

omit [Field R] [LinearOrder R] [JsMath R] in
theorem queuesMembers_create (db : LobbyDb) (roomId : String) :
    QueuesMembers db (GameSession.create (R := R) roomId) :=
  fun _ hqueue => absurd rfl hqueue

omit [LinearOrder R] in
theorem Attached.enter {db : LobbyDb} {g : Gateway R} (h : Attached db g) (now : Int)
    (uuid : String) {socket : SocketId} {ctx : SocketContext} {roomId : String}
    (hctx : g.contexts.get socket = some ctx) (hmember : IsMember db roomId ctx.playerId) :
    Attached db (g.enter now uuid socket ctx roomId) := by
  constructor
  case joined =>
    intro i ctx' roomId' hregistered hroom
    obtain ⟨hmem, hget⟩ := Gateway.mem_sockets_of_registered hregistered
    rw [Gateway.enter_sockets] at hmem
    rw [Gateway.contexts_enter] at hget
    split at hget
    next heq =>
      -- the socket that has entered is now in the room it is a member of
      subst heq
      rw [hctx] at hget
      cases hget
      cases hroom
      exact hmember
    next =>
      refine h.joined i ctx' roomId' ?_ hroom
      rw [Gateway.registered, if_pos hmem]
      exact hget
  case queued =>
    exact Gateway.each_enter h.queued now uuid socket ctx (queuesMembers_create db roomId)
      fun s hs => queuesMembers_addPlayer hs now _ _
  case keyed => exact Gateway.keyed_enter h.keyed now uuid socket ctx roomId

omit [Field R] [LinearOrder R] [JsMath R] in
theorem Attached.act {db : LobbyDb} {g : Gateway R} (h : Attached db g) {roomId playerId : String}
    {session : SessionId} {op : GameSession R → GameSession R}
    (hget : g.sessions.get roomId = some session) (hop : Gateway.PlayerOp playerId op)
    (hmember : IsMember db roomId playerId) :
    Attached db { g with sessions := g.sessions.modifySession session op } := by
  constructor
  case joined => exact h.joined
  case queued =>
    refine h.queued.modify fun o ho hqueue => queuesMembers_op hqueue hop ?_
    obtain ⟨o', ho', hroom⟩ := h.keyed.object roomId session hget
    cases ho.symm.trans ho'
    rw [hroom]
    exact hmember
  case keyed => exact h.keyed.modifySession hop.roomId

omit [Field R] [LinearOrder R] [JsMath R] in
theorem Attached.register {db : LobbyDb} {g : Gateway R} (h : Attached db g) (socket : SocketId)
    (payload : AccessTokenPayload) : Attached db (g.register socket payload) := by
  constructor
  case joined =>
    intro i ctx roomId hregistered hroom
    obtain ⟨hmem, hget⟩ := Gateway.mem_sockets_of_registered hregistered
    simp only [Gateway.register, Gateway.replaceExistingSocket_contexts, JsMap.get_set] at hget
    split at hget
    next =>
      cases hget
      cases hroom
    next hne =>
      have hold : i ∈ g.sockets := by
        rcases List.mem_append.mp hmem with hold | hnew
        · exact Gateway.mem_sockets_replaceExistingSocket hold
        · exact absurd (List.mem_singleton.mp hnew) hne
      refine h.joined i ctx roomId ?_ hroom
      rw [Gateway.registered, if_pos hold]
      exact hget
  case queued =>
    rw [Gateway.register_sessions]
    exact h.queued
  case keyed =>
    rw [Gateway.register_sessions]
    exact h.keyed

omit [Field R] [LinearOrder R] [JsMath R] in
theorem Attached.close {db : LobbyDb} {g : Gateway R} (h : Attached db g) (socket : SocketId) :
    Attached db (g.onClose socket).1 := by
  obtain ⟨byPlayer, sessions, hcore, hsessions⟩ := Gateway.onClose_core g socket
  rw [← attached_core, hcore]
  constructor
  case joined =>
    intro i ctx roomId hregistered hroom
    obtain ⟨hmem, hget⟩ := Gateway.mem_sockets_of_registered hregistered
    refine h.joined i ctx roomId ?_ hroom
    rw [Gateway.registered, if_pos (List.mem_filter.mp hmem).1]
    exact hget
  case queued =>
    rcases hsessions with rfl | ⟨session, playerId, assign, rfl⟩
    · exact h.queued
    · exact h.queued.modify fun o _ hqueue => queuesMembers_withPlayer hqueue playerId assign
  case keyed =>
    rcases hsessions with rfl | ⟨session, playerId, assign, rfl⟩
    · exact h.keyed
    · exact h.keyed.modifySession fun s => GameSession.withPlayer_roomId s playerId assign

theorem Attached.tick {db : LobbyDb} {g : Gateway R} (h : Attached db g) (env : Env R) (now : Int)
    {session : SessionId} {object : SessionObject R}
    (hobject : g.sessions.object session = some object) :
    Attached db (g.tick env now session object) := by
  have hmodify := GameSessionManager.modifySession_of_object hobject fun s => (s.step env now).session
  rw [← attached_core, Gateway.tick_core, hmodify]
  constructor
  case joined => exact h.joined
  case queued => exact h.queued.modify fun o _ hqueue => queuesMembers_step hqueue env now
  case keyed => exact h.keyed.modifySession fun s => GameSession.step_roomId env now s

theorem attached_rule (env : Env R) (db : LobbyDb) : Server.GatewayRule env db (Attached db) where
  core g g' hcore h := by
    rw [← attached_core, hcore, attached_core]
    exact h
  purged g tokens h := ⟨h.joined, h.queued, h.keyed⟩
  entered g now uuid socket ctx roomId room h _ hctx hfound hadmits :=
    h.enter now uuid hctx (isMember_of_admits hfound hadmits)
  acted g socket ctx roomId session op h hmem hctx hroom hget hop := by
    refine h.act hget hop (h.joined socket ctx roomId ?_ hroom)
    rw [Gateway.registered, if_pos hmem]
    exact hctx
  registered g socket payload h := h.register socket payload
  closed g socket h := h.close socket
  ticked g now session object h hobject := h.tick env now hobject

omit [Field R] [LinearOrder R] [JsMath R] in
theorem Attached.leave {db db' : LobbyDb} {g : Gateway R} (h : Attached db g)
    {roomId playerId : String} {draw : LobbyDraw}
    (hchanges : Changes draw db (.leaveRemoveMember roomId playerId) db')
    (hdetached : Detached g roomId playerId) : Attached db' g := by
  constructor
  case joined =>
    intro socket ctx room hregistered hroom
    rcases isMember_changes hchanges (h.joined socket ctx room hregistered hroom) with hkept | heq
    · exact hkept
    · cases heq
      exact absurd hroom (hdetached.sockets socket ctx hregistered rfl)
  case queued =>
    intro id o ho p hqueue
    rcases isMember_changes hchanges (h.queued id o ho p hqueue) with hkept | heq
    · exact hkept
    · cases heq
      exact absurd (hdetached.inputs id o ho rfl) hqueue
  case keyed => exact h.keyed

omit [LinearOrder R] in
theorem Attached.startRoute {db : LobbyDb} {g : Gateway R} (h : Attached db g) (now : Int)
    (room : RoomEntity) : Attached db { g with
      sessions := AppContainer.startRoute g.sessions now room } where
  joined := h.joined
  queued := AppContainer.startRoute_rule (h.queued.getOrCreate (queuesMembers_create db room.id))
    fun _ _ playerId username hm =>
      hm.modify fun _ _ hqueue => queuesMembers_addPlayer hqueue now playerId username
  keyed := AppContainer.startRoute_rule (h.keyed.getOrCreate room.id)
    fun _ _ playerId username hm =>
      hm.modifySession fun s => GameSession.addPlayer_roomId s now playerId username

/-- The invariant between two steps. -/
structure Settled (s : AppContainer R) : Prop where
  quiet : s.wsGateway.Quiet
  attached : Attached s.lobby s.wsGateway.gateway

omit [Field R] [LinearOrder R] [JsMath R] in
theorem settled_start (db : LobbyDb) : Settled (AppContainer.start (R := R) db) := by
  constructor
  case quiet =>
    intro i
    rfl
  case attached =>
    constructor
    case joined =>
      intro socket ctx roomId hregistered
      obtain ⟨hmem, -⟩ := Gateway.mem_sockets_of_registered hregistered
      cases hmem
    case queued =>
      intro id o ho
      cases ho
    case keyed => exact GameSessionManager.keyed_empty

omit [LinearOrder R] in
theorem Settled.route {maxPlayersPerRoom : Nat} {s t : AppContainer R}
    {call : LobbyService.Call} {draws : List (Except Failure LobbyDraw)} {now : Int}
    (h : Settled s) (hstep : s.route maxPlayersPerRoom call draws now = some t)
    (hguard : LeavesDetached s (.route call draws now)) : Settled t := by
  obtain ⟨⟨db, result⟩, hfinish, rfl⟩ := Option.map_eq_some_iff.mp hstep
  have hlobby : ∀ {db'}, Attached db' s.wsGateway.gateway →
      Settled { s with lobby := db' } := fun hattached => ⟨h.quiet, hattached⟩
  cases call with
  | leaveRoom playerId =>
    rcases leaveRoom_cases hfinish with rfl | ⟨finding, leaving, room, rfl, hfound, rfl⟩
    · exact hlobby h.attached
    · have hdetached := hguard playerId finding leaving now room rfl hfound
      exact hlobby (h.attached.leave (run_changes _ leaving s.lobby) hdetached)
  | startGame playerId =>
    have hattached : Attached db s.wsGateway.gateway :=
      h.attached.mono fun _ _ hmember =>
        isMember_finish (fun hmethod => by cases hmethod) hfinish hmember
    cases result with
    | error failure => exact hlobby hattached
    | ok reply =>
      cases reply with
      | none => exact hlobby hattached
      | some room => exact ⟨h.quiet, hattached.startRoute now room⟩
  | _ =>
    exact hlobby (h.attached.mono fun _ _ hmember =>
      isMember_finish (fun hmethod => by cases hmethod) hfinish hmember)

theorem Settled.step {env : Env R} {rt : Runtime R} {maxPlayersPerRoom : Nat}
    {s t : AppContainer R} {event : AppEvent} (h : Settled s)
    (hstep : s.step env rt maxPlayersPerRoom event = some t)
    (hguard : LeavesDetached s event) : Settled t := by
  by_cases hroute : ∃ call draws now, event = .route call draws now
  · obtain ⟨call, draws, now, rfl⟩ := hroute
    exact h.route hstep hguard
  · obtain ⟨hlobby, hattached, hquiet⟩ := AppContainer.gateway_step (attached_rule env s.lobby)
      h.quiet h.attached (fun call draws now heq => hroute ⟨call, draws, now, heq⟩) hstep
    exact ⟨hquiet, hlobby ▸ hattached⟩

/-- Between settled states a step gives access to members only. -/
theorem Settled.membersOnly {env : Env R} {rt : Runtime R} {maxPlayersPerRoom : Nat}
    {s t : AppContainer R} {event : AppEvent} (h : Settled s)
    (hstep : s.step env rt maxPlayersPerRoom event = some t) (hafter : Settled t)
    {roomId playerId : String} (haccess : Access env s t event roomId playerId) :
    IsMember s.lobby roomId playerId := by
  cases haccess with
  | @broadcast session now object socket message ctx hobject hsent hcontext =>
    obtain ⟨server, hserver, rfl⟩ := Option.map_eq_some_iff.mp hstep
    unfold Server.tick at hserver
    rw [hobject] at hserver
    dsimp only at hserver
    split at hserver <;> cases hserver
    obtain ⟨new, htick, hnew⟩ :=
      Gateway.tick_broadcasts env s.wsGateway.gateway now session object
    rw [htick, List.drop_left] at hsent
    obtain ⟨ctx', roomId, hregistered, hroom, hsubscribed⟩ := hnew _ hsent
    have hregistered' : s.wsGateway.gateway.registered socket = some ctx' := hregistered
    obtain ⟨-, hget⟩ := Gateway.mem_sockets_of_registered hregistered'
    cases hcontext.symm.trans hget
    -- the object sends to the sockets of its own room
    rw [← h.attached.keyed.subscribers session object roomId hobject hsubscribed]
    exact h.attached.joined socket ctx roomId hregistered' hroom
  | @enqueued socket raw replies id before after playerId input hbefore hbecomes hqueued =>
    have hlobby : t.lobby = s.lobby := by
      obtain ⟨server, -, rfl⟩ := Option.map_eq_some_iff.mp hstep
      rfl
    have hroom : after.session.roomId = before.session.roomId := by
      have hsame := GameSession.enqueueInput_roomId before.session playerId input
      rwa [hqueued] at hsame
    have hmember := hafter.attached.queued id after hbecomes playerId
      (GameSession.queueOf_enqueueInput_ne_nil hqueued)
    rwa [hlobby, hroom] at hmember
  | @applied session now object v hobject hvalidated =>
    refine h.attached.queued session object hobject v.playerId fun hempty => ?_
    have hmem := GameSession.mem_step_validations hvalidated
    rw [hempty] at hmem
    cases hmem

/-- In a run whose leaves all find their players detached, every step gives access
to members only. -/
theorem members_only (env : Env R) (rt : Runtime R) (maxPlayersPerRoom : Nat) (db : LobbyDb)
    (events : List AppEvent)
    (hleaves : (AppContainer.machine env rt maxPlayersPerRoom).StepsMeet LeavesDetached
      (AppContainer.start db) events) :
    (AppContainer.machine env rt maxPlayersPerRoom).StepsMeet
      (MembersOnly env rt maxPlayersPerRoom) (AppContainer.start db) events := by
  have halong : (AppContainer.machine env rt maxPlayersPerRoom).Along Settled
      (AppContainer.start db) events := by
    refine Machine.along_of_guarded (L := fun _ => True) ?_ (fun _ _ => trivial)
      (settled_start db) hleaves
    intro s event t h _ hstep hguard
    exact h.step hstep hguard
  refine halong.stepsMeet fun s event t h hstep hafter t' hstep' roomId playerId haccess => ?_
  cases hstep.symm.trans hstep'
  exact h.membersOnly hstep hafter haccess

/-- The id of the one room. -/
def arena : String := "00000000-0000-4000-8000-000000000000"

/-- The text of a `join_session` frame for it. -/
def joinText : String := "\x7b\"type\":\"join_session\",\"roomId\":\"" ++ arena ++ "\"\x7d"

/-- What `JSON.parse` makes of it. -/
def joinFrame : Json ℝ :=
  .obj fun key => if key = "type" then some (.str "join_session")
    else if key = "roomId" then some (.str arena) else none

def request : Request where
  forwardedFor := none
  remoteAddress := some "198.51.100.7"
  authorization := some "Bearer token-1"
  url := some "/ws"

/-- A platform on which one token is valid and one text is JSON. -/
def runtime : Runtime ℝ where
  jsonParse raw := if raw = joinText then some joinFrame else none
  queryToken _ := some none
  verifyAccessToken token := if token = "token-1" then some ⟨"u1", "p1", "nova"⟩ else none

/-- Tables with one player and no room. -/
def onePlayer : LobbyDb where
  rooms := .empty
  sessions := []
  usernames := JsMap.empty.set "p1" "nova"

/-- A call that is answered; the rate limiter allows. -/
def answered : CallReply where
  now := 0
  uuid := "reconnect-1"
  failed := false
  allowed := true

/-- The player creates the room, connects and joins its session. -/
def joining : List AppEvent :=
  [.route (.createRoom "p1" "Arena" none)
      [.ok default, .ok default, .ok { (default : LobbyDraw) with roomId := arena }] 0,
    .connect 0 request [answered, answered],
    .frame 0 joinText [answered, answered, answered]]

/-- The player leaves the room. -/
def leaving : AppEvent := .route (.leaveRoom "p1") [.ok default, .ok default] 0

noncomputable def oneServer : Machine (AppContainer ℝ) AppEvent :=
  AppContainer.machine defaultEnv runtime 8

/-- The sockets that snapshots have been sent to. -/
def snapshotsTo (sent : List (SocketId × ServerMessage R)) : List SocketId :=
  sent.filterMap fun e =>
    match e.2 with
    | .snapshot _ => some e.1
    | _ => none

omit [Field R] [LinearOrder R] [JsMath R] in
theorem mem_snapshotsTo {sent : List (SocketId × ServerMessage R)} {socket : SocketId}
    (h : socket ∈ snapshotsTo sent) : ∃ message, (socket, .snapshot message) ∈ sent := by
  obtain ⟨⟨i, message⟩, hmem, hsome⟩ := List.mem_filterMap.mp h
  cases message with
  | snapshot message =>
    cases hsome
    exact ⟨message, hmem⟩
  | _ => cases hsome

/-- A player who left with the socket open still gets the snapshots. -/
theorem former_member_sees_snapshot :
    ¬oneServer.StepsMeet (MembersOnly defaultEnv runtime 8) (AppContainer.start onePlayer)
      (joining ++ [leaving, .tick 0 50]) := by
  intro hmeet
  have hrun : ((oneServer.exec (AppContainer.start onePlayer) (joining ++ [leaving])).bind fun s =>
      (oneServer.step s (.tick 0 50)).map fun t =>
        ((s.lobby.rooms.get arena).map fun row => row.members.get "p1",
          (s.wsGateway.gateway.sessions.object 0).map fun o => o.session.roomId,
          (s.wsGateway.gateway.contexts.get 0).map SocketContext.playerId,
          snapshotsTo (t.wsGateway.gateway.sent.drop s.wsGateway.gateway.sent.length))) =
      some (some none, some arena, some "p1", [0]) := rfl
  obtain ⟨s, hs, hrun⟩ := Option.bind_eq_some_iff.mp hrun
  obtain ⟨t, ht, hfacts⟩ := Option.map_eq_some_iff.mp hrun
  simp only [Prod.mk.injEq] at hfacts
  obtain ⟨hroom, hobject, hcontext, hsent⟩ := hfacts
  obtain ⟨object, hget, harena⟩ := Option.map_eq_some_iff.mp hobject
  obtain ⟨ctx, hctx, hplayer⟩ := Option.map_eq_some_iff.mp hcontext
  have hzero : 0 ∈ snapshotsTo
      (t.wsGateway.gateway.sent.drop s.wsGateway.gateway.sent.length) := by
    rw [hsent]
    exact List.mem_singleton_self 0
  obtain ⟨message, hmessage⟩ := mem_snapshotsTo hzero
  rw [← List.singleton_append, ← List.append_assoc, Machine.stepsMeet_append] at hmeet
  have hlast := hmeet.2 s hs
  obtain ⟨row, hrow, hmember⟩ := (hlast t ht).1 t ht _ _ (.broadcast hget hmessage hctx)
  rw [harena] at hrow
  rw [hrow] at hroom
  rw [hplayer] at hmember
  exact hmember (Option.some.inj hroom)

omit [Field R] [LinearOrder R] [JsMath R] in
theorem leavesDetached_of_ne {event : AppEvent}
    (h : ∀ playerId draws now, event ≠ .route (.leaveRoom playerId) draws now)
    (s : AppContainer R) : LeavesDetached s event :=
  fun playerId _ _ now _ hevent => absurd hevent (h playerId _ now)

/-- The player closes the socket first. -/
theorem closed_before_leaving :
    oneServer.StepsMeet (MembersOnly defaultEnv runtime 8) (AppContainer.start onePlayer)
      ((joining ++ [.tick 0 50, .close 0 [answered]]) ++ [leaving, .tick 0 100]) := by
  refine members_only defaultEnv runtime 8 onePlayer _ ?_
  rw [Machine.stepsMeet_append]
  constructor
  · refine Machine.StepsMeet.of_labels (fun event hevent s => leavesDetached_of_ne ?_ s) _
    rintro playerId draws now rfl
    simp [joining] at hevent
  · intro s hs
    have hrun : (oneServer.exec (AppContainer.start onePlayer)
        (joining ++ [.tick 0 50, .close 0 [answered]])).map (fun s =>
          (s.wsGateway.gateway.sockets,
            s.wsGateway.gateway.sessions.objects.map fun o => o.session.queueOf "p1")) =
        some ([], [[]]) := rfl
    obtain ⟨s', hs', hfacts⟩ := Option.map_eq_some_iff.mp hrun
    cases hs.symm.trans hs'
    simp only [Prod.mk.injEq] at hfacts
    obtain ⟨hsockets, hqueues⟩ := hfacts
    refine fun t _ => ⟨fun playerId finding leaving now room hevent _ => ?_, ?_⟩
    · cases hevent
      constructor
      case sockets =>
        intro socket ctx hregistered
        obtain ⟨hmem, -⟩ := Gateway.mem_sockets_of_registered hregistered
        rw [hsockets] at hmem
        cases hmem
      case inputs =>
        intro id object hobject _
        have hmem := List.mem_map_of_mem (f := fun o : SessionObject ℝ => o.session.queueOf "p1")
          (List.mem_of_getElem? hobject)
        rw [hqueues] at hmem
        exact List.mem_singleton.mp hmem
    · refine Machine.StepsMeet.of_labels (fun event hevent s => leavesDetached_of_ne ?_ s) _
      rintro playerId draws now rfl
      simp at hevent

end RealtimeGameServer.Guarantees.SessionAccess
