import RealtimeGameServer.Guarantees.DeadConnections
import RealtimeGameServer.Guarantees.FrameOrder
import RealtimeGameServer.Source.SentMessages

/-!
# What a room's sockets hear of its session

The gateway remembers by room id that it has subscribed to a session, while the
sessions are objects. A session that is destroyed and created again under its id
has no listener, and `subscribedRooms` prevents that it ever gets one: the room
is silent. In runs in which every session is created for a room that is not in
`subscribedRooms`, each message of a room's session goes to each of its open
registered sockets exactly once.
-/
namespace RealtimeGameServer.Guarantees.RoomFanout
open Lib Source
open DeadConnections (frameOf)
open FrameOrder (allowed found online)
open SessionAccess (arena joinText request runtime)

variable {R : Type}

/-- A session of the room finds the gateway without a subscription for it. -/
def unsubscribed (g : Gateway R) (roomId : String) : Bool :=
  (g.sessions.get roomId).isSome || decide (roomId ∉ g.subscribedRooms)

/-- A session that the event creates is created for a room that the gateway has not
subscribed before. -/
def createsUnsubscribed (s : Server R) : SharedEvent → Bool
  | .server (.answer number _ _ (.room (some room))) =>
    match (s.handlers.get number).bind fun suspended => frameOf suspended.handler with
    | some (socket, .roomLookup roomId) =>
      match s.gateway.contexts.get socket with
      | none => true
      | some ctx => decide (¬Gateway.Admits ctx.playerId room) || unsubscribed s.gateway roomId
    | _ => true
  | .getOrCreate roomId => unsubscribed s.gateway roomId
  | .startRoute _ room => unsubscribed s.gateway room.id
  | _ => true

section Broadcast
variable [Field R] [LinearOrder R] [JsMath R]

/-- Whenever the session held for a room ticks, each of its messages is sent exactly once
to each open registered socket of the room, in the order they are emitted. -/
def FansOut (env : Env R) (s : Server R) : Prop :=
  ∀ roomId session object now socket ctx,
    s.gateway.sessions.get roomId = some session →
    s.gateway.sessions.object session = some object →
    s.gateway.registered socket = some ctx → ctx.roomId = some roomId →
    s.gateway.readyState socket = .opened →
    sentTo ((s.gateway.tick env now session object).sent.drop s.gateway.sent.length) socket =
      (object.session.step env now).emitted.map .snapshot

end Broadcast

/-- The session of a room is its own, with one listener if the gateway has subscribed for
the room and none otherwise. -/
structure Held (m : GameSessionManager R) (subscribed : List String) : Prop where
  object : ∀ roomId id, m.get roomId = some id → ∃ o, m.object id = some o ∧
    o.subscribers = if roomId ∈ subscribed then [roomId] else []
  distinct : ∀ roomId roomId' id, m.get roomId = some id → m.get roomId' = some id →
    roomId = roomId'

theorem Held.modify {m : GameSessionManager R} {subscribed : List String} (h : Held m subscribed)
    (id : SessionId) {f : SessionObject R → SessionObject R}
    (hf : ∀ o, (f o).subscribers = o.subscribers) : Held (m.modify id f) subscribed where
  object roomId i hget := by
    obtain ⟨o, ho, hsubscribers⟩ := h.object roomId i hget
    rw [GameSessionManager.object_modify, ho]
    split
    next => exact ⟨f o, rfl, (hf o).trans hsubscribers⟩
    next => exact ⟨o, rfl, hsubscribers⟩
  distinct := h.distinct

theorem Held.modifySession {m : GameSessionManager R} {subscribed : List String}
    (h : Held m subscribed) (id : SessionId) (f : GameSession R → GameSession R) :
    Held (m.modifySession id f) subscribed :=
  Held.modify h id fun _ => rfl

/-- A session that is created is the only one with its number, and has no listener. -/
theorem Held.getOrCreate {m : GameSessionManager R} {subscribed : List String}
    (h : Held m subscribed) {roomId : String}
    (hfresh : m.get roomId = none → roomId ∉ subscribed) :
    Held (m.getOrCreate roomId).1 subscribed := by
  cases hget : m.get roomId with
  | some id =>
    rw [GameSessionManager.getOrCreate_of_some hget]
    exact h
  | none =>
    have hid : (m.getOrCreate roomId).2 = m.objects.length := by
      unfold GameSessionManager.getOrCreate
      rw [show m.sessions.get roomId = none from hget]
    have hold : ∀ i id, m.get i = some id → id ≠ m.objects.length := by
      intro i id hi
      obtain ⟨o, ho, -⟩ := h.object i id hi
      exact Nat.ne_of_lt (List.getElem?_eq_some_iff.mp ho).1
    constructor
    case object =>
      intro i id hi
      rw [GameSessionManager.get_getOrCreate, hid] at hi
      rw [GameSessionManager.object_getOrCreate]
      split at hi
      next heq =>
        cases hi
        refine ⟨_, if_pos ⟨hget, rfl⟩, ?_⟩
        rw [heq, if_neg (hfresh hget)]
      next =>
        obtain ⟨o, ho, hsubscribers⟩ := h.object i id hi
        refine ⟨o, ?_, hsubscribers⟩
        rw [if_neg fun heq => hold i id hi heq.2]
        exact ho
    case distinct =>
      intro i j id hi hj
      rw [GameSessionManager.get_getOrCreate, hid] at hi hj
      split at hi <;> split at hj
      next hi' hj' => exact hi'.trans hj'.symm
      next =>
        cases hi
        exact absurd rfl (hold j _ hj)
      next =>
        cases hj
        exact absurd rfl (hold i _ hi)
      next => exact h.distinct i j id hi hj

/-- The gateway subscribes once for a room. -/
theorem Held.subscribe {m : GameSessionManager R} {subscribed : List String}
    (h : Held m subscribed) {roomId : String} {id : SessionId} (hget : m.get roomId = some id)
    (hnew : roomId ∉ subscribed) :
    Held (m.modify id fun o => { o with subscribers := o.subscribers ++ [roomId] })
      (subscribed ++ [roomId]) where
  object i j hi := by
    obtain ⟨o, ho, hsubscribers⟩ := h.object i j hi
    rw [GameSessionManager.object_modify, ho]
    by_cases heq : i = roomId
    · subst heq
      cases hget.symm.trans hi
      rw [if_neg hnew] at hsubscribers
      rw [if_pos rfl]
      refine ⟨_, rfl, ?_⟩
      simp [hsubscribers]
    · have hne : j ≠ id := by
        rintro rfl
        exact heq (h.distinct i roomId j hi hget)
      rw [if_neg hne]
      refine ⟨o, rfl, hsubscribers.trans ?_⟩
      simp [heq]
  distinct := h.distinct

theorem Held.destroy {m : GameSessionManager R} {subscribed : List String} (h : Held m subscribed)
    (roomId : String) : Held (m.destroy roomId) subscribed := by
  have hget : ∀ i id, (m.destroy roomId).get i = some id → m.get i = some id := by
    intro i id hi
    rw [GameSessionManager.get_destroy] at hi
    split at hi
    next => cases hi
    next => exact hi
  constructor
  case object =>
    intro i id hi
    obtain ⟨o, ho, hsubscribers⟩ := h.object i id (hget i id hi)
    unfold GameSessionManager.destroy
    split
    next => exact ⟨o, ho, hsubscribers⟩
    next old _ =>
      have hobject := GameSessionManager.object_modify m old (fun o => { o with running := false }) id
      rw [ho] at hobject
      split at hobject
      next => exact ⟨_, hobject, hsubscribers⟩
      next => exact ⟨o, hobject, hsubscribers⟩
  case distinct =>
    intro i j id hi hj
    exact h.distinct i j id (hget i id hi) (hget j id hj)

theorem Held.destroyAll {m : GameSessionManager R} {subscribed : List String}
    (h : Held m subscribed) : Held m.destroyAll subscribed :=
  List.foldlRecOn (motive := fun m => Held m subscribed) m.sessions.keys _ h
    fun _ hm roomId _ => hm.destroy roomId

/-- Sockets are in rooms the gateway has subscribed for. -/
structure Wired (g : Gateway R) : Prop where
  held : Held g.sessions g.subscribedRooms
  joined : ∀ socket ctx roomId, g.contexts.get socket = some ctx → ctx.roomId = some roomId →
    roomId ∈ g.subscribedRooms

theorem wired_core {g : Gateway R} : Wired g.core ↔ Wired g :=
  ⟨fun h => ⟨h.held, h.joined⟩, fun h => ⟨h.held, h.joined⟩⟩

theorem Wired.of_core {g g' : Gateway R} (h : Wired g) (hcore : g'.core = g.core) : Wired g' := by
  rw [← wired_core, hcore, wired_core]
  exact h

theorem Wired.withSessions {g : Gateway R} (h : Wired g) {sessions : GameSessionManager R}
    (hheld : Held sessions g.subscribedRooms) : Wired { g with sessions } := ⟨hheld, h.joined⟩

theorem subscribed_of_unsubscribed {g : Gateway R} {roomId : String}
    (h : unsubscribed g roomId = true) (hget : g.sessions.get roomId = none) :
    roomId ∉ g.subscribedRooms := by
  simpa [unsubscribed, hget] using h

variable [Field R] [LinearOrder R] [JsMath R]

omit [LinearOrder R] in
theorem enter_subscribed (g : Gateway R) (now : Int) (uuid : String) (socket : SocketId)
    (ctx : SocketContext) (roomId : String) :
    (g.enter now uuid socket ctx roomId).subscribedRooms =
      if roomId ∈ g.subscribedRooms then g.subscribedRooms else g.subscribedRooms ++ [roomId] := by
  have hissue : ∀ g : Gateway R,
      (g.issueReconnectToken now uuid socket ctx roomId).subscribedRooms = g.subscribedRooms := by
    intro g
    unfold Gateway.issueReconnectToken Gateway.modifyContext
    dsimp only
    split <;> rfl
  unfold Gateway.enter
  dsimp only
  rw [hissue]
  unfold Gateway.subscribe
  split <;> rfl

omit [LinearOrder R] in
theorem enter_sessions_iff (g : Gateway R) (now : Int) (uuid : String) (socket : SocketId)
    (ctx : SocketContext) (roomId : String) :
    (g.enter now uuid socket ctx roomId).sessions =
      if roomId ∈ g.subscribedRooms then g.entering now ctx roomId
      else (g.entering now ctx roomId).modify (g.sessions.getOrCreate roomId).2 fun o =>
        { o with subscribers := o.subscribers ++ [roomId] } := by
  unfold Gateway.enter
  dsimp only
  rw [Gateway.issueReconnectToken_sessions]
  unfold Gateway.subscribe
  split <;> rfl

omit [LinearOrder R] in
theorem Wired.enter {g : Gateway R} (h : Wired g) (now : Int) (uuid : String) (socket : SocketId)
    (ctx : SocketContext) {roomId : String} (hfresh : unsubscribed g roomId = true) :
    Wired (g.enter now uuid socket ctx roomId) := by
  have hentering : Held (g.entering now ctx roomId) g.subscribedRooms :=
    (h.held.getOrCreate (subscribed_of_unsubscribed hfresh)).modifySession _ _
  have hget : (g.entering now ctx roomId).get roomId = some (g.sessions.getOrCreate roomId).2 :=
    (GameSessionManager.get_getOrCreate g.sessions roomId roomId).trans (if_pos rfl)
  constructor
  case held =>
    rw [enter_sessions_iff, enter_subscribed]
    split
    next => exact hentering
    next hnew => exact hentering.subscribe hget hnew
  case joined =>
    intro i ctx' room hctx hroom
    rw [enter_subscribed]
    have hmem : room = roomId ∨ room ∈ g.subscribedRooms := by
      rw [Gateway.contexts_enter] at hctx
      split at hctx
      next =>
        obtain ⟨old, -, rfl⟩ := Option.map_eq_some_iff.mp hctx
        exact Or.inl (Option.some.inj hroom).symm
      next => exact Or.inr (h.joined i ctx' room hctx hroom)
    split
    next hold =>
      rcases hmem with rfl | hmem
      · exact hold
      · exact hmem
    next =>
      rw [List.mem_append, List.mem_singleton]
      exact hmem.symm

/-- A frame keeps the listeners in order, if a session it creates finds no subscription. -/
theorem Wired.frame {rt : Runtime R} {g : Gateway R} (h : Wired g) {now : Int} {uuid : String}
    {socket : SocketId} {ctx : SocketContext} {pc : FramePc} {answer : Answer}
    {result : Gateway R × Outcome FramePc}
    (hran : g.resumeFrame rt now uuid socket ctx pc answer = some result)
    (hfresh : ∀ roomId room, pc = .roomLookup roomId → answer = .room (some room) →
      Gateway.Admits ctx.playerId room → unsubscribed g roomId = true) : Wired result.1 := by
  have hchanges := Gateway.resumeFrame_changes hran
  rw [← wired_core]
  generalize result.1.core = core at hchanges ⊢
  cases hchanges with
  | quiet => exact wired_core.mpr h
  | purged => exact ⟨h.held, h.joined⟩
  | @entered roomId room place found admits =>
    exact wired_core.mpr (h.enter now uuid socket ctx (hfresh roomId room place found admits))
  | acted joined current own => exact ⟨h.held.modifySession _ _, h.joined⟩

omit [Field R] [LinearOrder R] [JsMath R] in
theorem Wired.register {g : Gateway R} (h : Wired g) (socket : SocketId)
    (payload : AccessTokenPayload) : Wired (g.register socket payload) := by
  have hsubscribed : (g.register socket payload).subscribedRooms = g.subscribedRooms := by
    unfold Gateway.register Gateway.replaceExistingSocket
    dsimp only
    split
    next => rfl
    next existing _ =>
      have heq := congrArg Gateway.subscribedRooms (Gateway.core_closeSocket g existing)
      exact heq
  constructor
  case held =>
    rw [Gateway.register_sessions, hsubscribed]
    exact h.held
  case joined =>
    intro i ctx roomId hctx hroom
    rw [hsubscribed]
    rw [Gateway.contexts_register] at hctx
    split at hctx
    next =>
      cases hctx
      cases hroom
    next => exact h.joined i ctx roomId hctx hroom

omit [Field R] [LinearOrder R] [JsMath R] in
theorem Wired.onClose {g : Gateway R} (h : Wired g) (socket : SocketId) :
    Wired (g.onClose socket).1 := by
  obtain ⟨byPlayer, sessions, hcore, hsessions⟩ := Gateway.onClose_core g socket
  rw [← wired_core, hcore]
  refine ⟨?_, h.joined⟩
  rcases hsessions with rfl | ⟨session, playerId, assign, rfl⟩
  · exact h.held
  · have hheld := h.held.modifySession session fun s => s.withPlayer playerId assign
    exact hheld

theorem Wired.step {env : Env R} {rt : Runtime R} {s t : Server R} {event : ServerEvent}
    (h : Wired s.gateway) (hstep : Server.Moves env rt s t event)
    (hguard : createsUnsubscribed s (.server event)) : Wired t.gateway := by
  cases hstep with
  | connected unknown gateway goes =>
    rw [gateway]
    exact ⟨h.held, h.joined⟩
  | buffered gateway handlers =>
    rw [gateway]
    exact h.of_core (Gateway.core_modifyWire _ _ _)
  | received gateway goes =>
    rw [gateway]
    exact h.of_core (Gateway.onMessage_core env _ _ _)
  | ignored same =>
    rw [same]
    exact h
  | frame handler context ran gateway goes =>
    rw [gateway]
    refine h.frame ran fun roomId room place found admits => ?_
    subst place
    subst found
    simpa [createsUnsubscribed, handler, frameOf, context, admits] using hguard
  | @connection number now uuid answer socket pc call wire result handler known ran gateway goes =>
    rw [gateway]
    rcases ran.core with ⟨-, hcore | ⟨-, payload, hresult⟩⟩ |
      ⟨framePc, ctx, after, hplace, hctx, hframe, hcore⟩
    · exact h.of_core hcore
    · rw [hresult]
      exact h.register socket payload
    · refine Wired.of_core (h.frame hframe fun roomId room place found admits => ?_) hcore
      subst place
      subst found
      have hframeOf : frameOf (.connection socket pc) = some (socket, .roomLookup roomId) := by
        cases pc <;> cases hplace
        rfl
      simpa [createsUnsubscribed, handler, hframeOf, hctx, admits] using hguard
  | offline handler gateway goes =>
    rw [gateway]
    exact h
  | closed known listens wired gateway goes =>
    rw [gateway, wired]
    exact Wired.onClose (h.of_core (Gateway.core_modifyWire _ _ _)) _
  | unheard known deaf gateway handlers =>
    rw [gateway]
    exact h.of_core (Gateway.core_modifyWire _ _ _)
  | @ticked session now object current running gateway handlers =>
    have hheld := h.held.modifySession session fun _ => (object.session.step env now).session
    rw [gateway, Gateway.tick_eq]
    exact ⟨hheld, h.joined⟩
  | destroyed gateway handlers =>
    rw [gateway]
    exact h.withSessions (h.held.destroy _)
  | shutDown gateway handlers =>
    have hclosed := Gateway.core_foldl Gateway.closeSocket Gateway.core_closeSocket
      s.gateway.sockets s.gateway
    have hwired := h.of_core hclosed
    rw [gateway]
    refine ⟨?_, hwired.joined⟩
    rw [← Gateway.sessions_of_core hclosed]
    exact hwired.held.destroyAll

section Deliveries
omit [Field R] [LinearOrder R] [JsMath R]

/-- A socket of the audience gets a broadcast once. -/
theorem sentTo_broadcast {g : Gateway R} (hnodup : g.sockets.Nodup) {roomId : String}
    {socket : SocketId} (hears : g.hears roomId socket) (message : ServerMessage R) :
    sentTo ((g.audience roomId).map (·, message)) socket = [message] := by
  have hcount : (g.audience roomId).count socket = 1 :=
    List.count_eq_one_of_mem (hnodup.filter _) (Gateway.mem_audience.mpr hears)
  have hfilter : (g.audience roomId).filter (fun i => i = socket) = [socket] := by
    rw [List.filter_eq, hcount]
    rfl
  unfold sentTo
  rw [List.filter_map, List.map_map]
  exact congrArg (List.map _) hfilter

/-- Of the deliveries to one room each socket of its audience gets every message once. -/
theorem sentTo_deliveries {g : Gateway R} (hnodup : g.sockets.Nodup) {roomId : String}
    {socket : SocketId} (hears : g.hears roomId socket) (messages : List (SnapshotMessage R)) :
    sentTo (g.deliveries [roomId] messages) socket = messages.map .snapshot := by
  induction messages with
  | nil => rfl
  | cons message rest ih =>
    have hfirst : g.deliveries [roomId] (message :: rest) =
        (g.audience roomId).map (·, .snapshot message) ++ g.deliveries [roomId] rest := by
      unfold Gateway.deliveries
      rw [List.flatMap_cons, List.flatMap_singleton]
    rw [hfirst, sentTo_append, sentTo_broadcast hnodup hears, ih]
    rfl

end Deliveries

theorem Wired.fansOut {env : Env R} {s : Server R} (h : Wired s.gateway) (hc : s.Connecting) :
    FansOut env s := by
  intro roomId session object now socket ctx hget hobject hregistered hroom hopen
  obtain ⟨-, hctx⟩ := Gateway.mem_sockets_of_registered hregistered
  obtain ⟨o, ho, hsubscribers⟩ := h.held.object roomId session hget
  cases hobject.symm.trans ho
  rw [if_pos (h.joined socket ctx roomId hctx hroom)] at hsubscribers
  rw [Gateway.tick_eq, Gateway.sending, List.drop_left, hsubscribers]
  exact sentTo_deliveries hc.registry.nodup
    (Gateway.hears_iff.mpr ⟨ctx, hregistered, hroom, hopen⟩) _

/-- In runs in which every session is created for a room without a subscription, the
messages of the room's session are sent to each of its sockets exactly once. -/
theorem fans_out (env : Env R) (rt : Runtime R) (events : List SharedEvent)
    (hfresh : (Server.shared env rt).StepsMeet (fun s event => createsUnsubscribed s event)
      Server.empty events) :
    (Server.shared env rt).Along (FansOut env) Server.empty events := by
  have hempty : (Server.empty : Server R).Connecting ∧ Wired (Server.empty : Server R).gateway := by
    refine ⟨Server.connecting_empty, ⟨⟨fun _ _ hget => ?_, fun _ _ _ hget => ?_⟩, ?_⟩⟩
    · cases hget
    · cases hget
    · intro socket ctx roomId hget
      cases hget
  have hkeep : ∀ (s : Server R) event t, (s.Connecting ∧ Wired s.gateway) → True →
      (Server.shared env rt).step s event = some t → createsUnsubscribed s event →
      t.Connecting ∧ Wired t.gateway := by
    intro s event t ⟨hconnecting, hwired⟩ _ hstep hguard
    cases event with
    | server event =>
      have hmoves := Server.moves hstep
      exact ⟨hconnecting.step hmoves.connects, hwired.step hmoves hguard⟩
    | getOrCreate roomId =>
      cases hstep
      have hheld := hwired.held.getOrCreate (subscribed_of_unsubscribed hguard)
      exact ⟨hconnecting.withSessions _, hwired.withSessions hheld⟩
    | startRoute now room =>
      cases hstep
      have hheld := hwired.held.getOrCreate (subscribed_of_unsubscribed hguard)
      have hadded : Held (AppContainer.startRoute s.gateway.sessions now room)
          s.gateway.subscribedRooms :=
        AppContainer.startRoute_rule (I := fun m => Held m s.gateway.subscribedRooms) hheld
          fun _ _ _ _ hm => hm.modifySession _ _
      exact ⟨hconnecting.withSessions _, hwired.withSessions hadded⟩
  exact (Machine.along_of_guarded hkeep (fun _ _ => trivial) hempty hfresh).mono
    fun _ h => h.2.fansOut h.1

/-- The player joins, the session is destroyed, and the player joins again. -/
def recreated : List SharedEvent :=
  [.connect 0 request, allowed 0, online 0, .frame 0 joinText, allowed 1, found 1, online 1,
    .destroy arena, .frame 0 joinText, allowed 2, found 2, online 2].map .server

/-- The room is silent: its session emits a message, and the one socket gets none. -/
theorem recreated_session_is_silent :
    ¬(Server.shared defaultEnv runtime).Along (FansOut defaultEnv) Server.empty recreated := by
  intro halong
  have hrun : ((Server.shared defaultEnv runtime).exec Server.empty recreated).map (fun s =>
      (s.gateway.sessions.get arena, (s.gateway.registered 0).map SocketContext.roomId,
        s.gateway.readyState 0, (s.gateway.sessions.object 1).map fun o =>
          (o.subscribers, (o.session.step defaultEnv 0).emitted.length))) =
      some (some 1, some (some arena), .opened, some ([], 1)) := rfl
  obtain ⟨s, hs, hfacts⟩ := Option.map_eq_some_iff.mp hrun
  simp only [Prod.mk.injEq] at hfacts
  obtain ⟨hget, hregistered, hopen, hobject⟩ := hfacts
  obtain ⟨ctx, hctx, hroom⟩ := Option.map_eq_some_iff.mp hregistered
  obtain ⟨object, hobject, hfacts⟩ := Option.map_eq_some_iff.mp hobject
  simp only [Prod.mk.injEq] at hfacts
  obtain ⟨hsubscribers, hemitted⟩ := hfacts
  have hsent := halong.last hs arena 1 object 0 0 ctx hget hobject hctx hroom hopen
  have hnothing : s.gateway.deliveries [] (object.session.step defaultEnv 0).emitted = [] :=
    List.flatMap_eq_nil_iff.mpr fun _ _ => rfl
  rw [Gateway.tick_eq, Gateway.sending, List.drop_left, hsubscribers, hnothing] at hsent
  have hlength := congrArg List.length hsent
  rw [List.length_map, hemitted] at hlength
  cases hlength

/-- The session is created by the start route and joined. -/
def startedThenJoined : List SharedEvent :=
  .getOrCreate arena ::
    [.connect 0 request, allowed 0, online 0, .frame 0 joinText, allowed 1, found 1, online 1,
      .tick 0 0].map .server

theorem started_room_is_heard :
    (Server.shared defaultEnv runtime).StepsMeet (fun s event => createsUnsubscribed s event)
        Server.empty startedThenJoined ∧
      (Server.shared defaultEnv runtime).Along (FansOut defaultEnv) Server.empty startedThenJoined := by
  have hfresh : (Server.shared defaultEnv runtime).StepsMeet
      (fun s event => createsUnsubscribed s event) Server.empty startedThenJoined :=
    Machine.stepsMeet_iff_checks.mpr rfl
  exact ⟨hfresh, fans_out defaultEnv runtime startedThenJoined hfresh⟩

end RealtimeGameServer.Guarantees.RoomFanout
