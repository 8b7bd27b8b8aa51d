import RealtimeGameServer.Guarantees.SessionAccess

/-!
# Handlers that outlive their connection

`onMessage` looks the context of its socket up once and works on with it after each
await. `onClose` and a newer connection of the player unregister the socket, but a
handler that waits at that time goes on and has its effects on the sessions, the
reconnect tokens and the presence of the player. That no handler of a dead
connection has an effect is said of a whole run, and it holds if and only if each of
their stretches is one of those that `Inert` lists. One socket that closes while
its `join_session` waits for the lobby is enough to enter a session without a
connection.
-/
namespace RealtimeGameServer.Guarantees.DeadConnections
open Lib Source
open SessionAccess (arena joinText joinFrame request runtime)

/-- The calls that write the presence of a player. -/
def IsPresence : ExternalCall → Prop
  | .setOnline _ _ | .heartbeat _ _ | .setOffline _ => True
  | _ => False

/-- The socket whose frame a handler is about, and where it waits. -/
def frameOf : Handler → Option (SocketId × FramePc)
  | .message socket pc => some (socket, pc)
  | .connection socket (.early _ pc) => some (socket, pc)
  | _ => none

/-- The sockets whose connection dies with an event: `onClose` runs for it, or a newer
connection of its player replaces it. -/
def endedBy {R : Type} (rt : Runtime R) (s : Server R) : ServerEvent → List SocketId
  | .close socket =>
    match s.gateway.wires.get socket with
    | none => []
    | some wire => if wire.readyState ≠ .closed ∧ wire.closeListener then [socket] else []
  | .answer number _ _ (.limit true) =>
    match s.handlers.get number with
    | some ⟨.connection socket .ipLimited, _⟩ =>
      ((s.gateway.wires.get socket).bind fun wire =>
        (authenticate rt wire.request).bind fun payload =>
          s.gateway.socketsByPlayer.get payload.playerId).toList
    | _ => []
  | _ => []

variable {R : Type} [Field R] [LinearOrder R] [JsMath R]

/-- The server with the list of dead sockets. -/
def recorded (env : Env R) (rt : Runtime R) : Machine (Server R × List SocketId) ServerEvent :=
  (Server.machine env rt).recording (endedBy rt)

/-- From `s` to `t` the sessions and the tokens are unchanged, and the handler with
this number has issued no presence call. -/
structure WithoutEffect (s t : Server R) (number : Nat) : Prop where
  sessions : t.gateway.sessions = s.gateway.sessions
  tokens : t.gateway.reconnectTokens = s.gateway.reconnectTokens
  presence : ∀ suspended, t.handlers.get number = some suspended → ¬IsPresence suspended.call

/-- A step of a handler that was started for a frame of a dead socket has no effect. -/
def DeadWithoutEffect (env : Env R) (rt : Runtime R) (p : Server R × List SocketId)
    (event : ServerEvent) : Prop :=
  ∀ number now uuid answer suspended socket pc t, event = .answer number now uuid answer →
    p.1.handlers.get number = some suspended → frameOf suspended.handler = some (socket, pc) →
    socket ∈ p.2 → p.1.step env rt event = some t → WithoutEffect p.1 t number

/-- What a message does not change when `dispatch` is called with it. -/
def InertMessage (g : Gateway R) (now : Int) (ctx : SocketContext) : ClientMessage R → Prop
  | .joinSession _ reconnectToken =>
    -- no token has expired, and the one that is given is not in the table
    (∀ token entry, g.reconnectTokens.get token = some entry → now < entry.expiresAt) ∧
      ∀ token, reconnectToken = some token → token ≠ "" → g.reconnectTokens.get token = none
  | .input input =>
    -- the player has no queue in the session, or a full one of this very input
    ∀ session object, g.currentSession ctx = some session → g.sessions.object session = some object →
      ∀ queue, object.session.pendingInputs.get ctx.playerId = some queue →
        GameSession.FullOf input queue
  | .ping clientTime =>
    -- the player is not in the session, or has this very ping already
    ∀ session object, g.currentSession ctx = some session → g.sessions.object session = some object →
      ∀ player, object.session.players.get ctx.playerId = some player →
        player.ping = max 0 (JsMath.round (max 0 ((now : R) - clientTime)))
  | .heartbeat => False
  | .requestSnapshot => True

/-- The stretches of `onMessage` without an effect, by where it waits and the answer:
beside those that only reply, a frame that is not dispatched, a message that
changes nothing, and a room that does not admit the player. -/
def Inert (rt : Runtime R) (g : Gateway R) (now : Int) (ctx : SocketContext) :
    FramePc → Answer → Prop
  | .rateLimited raw, .limit true =>
    ∀ message, (rt.jsonParse raw).bind clientMessageSchema = some message →
      InertMessage g now ctx message
  | .roomLookup _, .room (some room) => ¬Gateway.Admits ctx.playerId room
  | _, _ => True

/-- A handler that was started for a frame of a dead socket is at such a stretch. -/
def DeadInert (rt : Runtime R) (p : Server R × List SocketId) (event : ServerEvent) : Prop :=
  ∀ number now uuid answer suspended socket pc ctx, event = .answer number now uuid answer →
    p.1.handlers.get number = some suspended → frameOf suspended.handler = some (socket, pc) →
    socket ∈ p.2 → p.1.gateway.contexts.get socket = some ctx →
    Inert rt p.1.gateway now ctx pc answer

/-- What `WithoutEffect` says of one stretch. -/
structure Unaffected (g : Gateway R) (result : Gateway R × Outcome FramePc) : Prop where
  sessions : result.1.sessions = g.sessions
  tokens : result.1.reconnectTokens = g.reconnectTokens
  presence : ∀ pc call, result.2 = .awaiting pc call → ¬IsPresence call

section Replies
omit [Field R] [LinearOrder R] [JsMath R]

theorem tokens_of_core {g g' : Gateway R} (h : g'.core = g.core) :
    g'.reconnectTokens = g.reconnectTokens := by
  have htokens := congrArg Gateway.reconnectTokens h
  exact htokens

theorem unaffected_of_core {g g' : Gateway R} (h : g'.core = g.core) :
    Unaffected g (g', .settled) where
  sessions := Gateway.sessions_of_core h
  tokens := tokens_of_core h
  presence := fun _ _ hout => by cases hout

theorem joinSession_unaffected_iff (g : Gateway R) (now : Int) (socket : SocketId)
    (ctx : SocketContext) (roomId : String) (reconnectToken : Option String) :
    Unaffected g (g.joinSession now socket ctx roomId reconnectToken) ↔
      (∀ token entry, g.reconnectTokens.get token = some entry → now < entry.expiresAt) ∧
        ∀ token, reconnectToken = some token → token ≠ "" → g.reconnectTokens.get token = none := by
  have hpurge : (g.purgeExpiredReconnectTokens now).reconnectTokens = g.reconnectTokens ↔
      ∀ token entry, g.reconnectTokens.get token = some entry → now < entry.expiresAt := by
    simp only [Gateway.purgeExpiredReconnectTokens, JsMap.filter_eq_self, decide_eq_true_eq, not_le]
  unfold Gateway.joinSession
  dsimp only
  split
  next hfilter =>
    constructor
    · intro h
      refine ⟨hpurge.mp h.tokens, fun token htoken hne => ?_⟩
      rw [htoken, Option.filter_some, if_pos (decide_eq_true hne)] at hfilter
      cases hfilter
    · rintro ⟨hlive, -⟩
      refine ⟨rfl, hpurge.mpr hlive, fun pc call hout => ?_⟩
      cases hout
      exact id
  next token hfilter =>
    obtain ⟨htoken, hne⟩ := Option.filter_eq_some_iff.mp hfilter
    have hdelete : (g.purgeExpiredReconnectTokens now).reconnectTokens.delete token =
        g.reconnectTokens ↔
        (∀ token entry, g.reconnectTokens.get token = some entry → now < entry.expiresAt) ∧
          g.reconnectTokens.get token = none := by
      rw [← hpurge]
      exact JsMap.delete_filter_eq_self _ _ _
    have hiff : (g.purgeExpiredReconnectTokens now).reconnectTokens.delete token =
        g.reconnectTokens ↔
        (∀ token entry, g.reconnectTokens.get token = some entry → now < entry.expiresAt) ∧
          ∀ other, reconnectToken = some other → other ≠ "" →
            g.reconnectTokens.get other = none := by
      rw [hdelete]
      refine and_congr_right fun _ => ⟨fun hnone other hother _ => ?_, fun hall => ?_⟩
      · cases htoken.symm.trans hother
        exact hnone
      · exact hall token htoken (of_decide_eq_true hne)
    rw [← hiff]
    split
    next =>
      constructor
      · intro h
        have htokens := h.tokens
        rw [tokens_of_core (Gateway.core_sendError _ _ _ _)] at htokens
        exact htokens
      · intro hsame
        refine ⟨(Gateway.sessions_of_core (Gateway.core_sendError _ _ _ _)).trans rfl, ?_,
          fun pc call hout => by cases hout⟩
        exact (tokens_of_core (Gateway.core_sendError _ _ _ _)).trans hsame
    next =>
      constructor
      · exact fun h => h.tokens
      · intro hsame
        refine ⟨rfl, hsame, fun pc call hout => ?_⟩
        cases hout
        exact id

/-- A stretch that has replied and changes at most one session. -/
theorem unaffected_act_iff {g g' : Gateway R} {session : SessionId}
    {op : GameSession R → GameSession R}
    (hcore : g'.core = { g.core with sessions := g.sessions.modifySession session op }) :
    Unaffected g (g', .settled) ↔
      ∀ object, g.sessions.object session = some object → op object.session = object.session := by
  have hsessions : g'.sessions = g.sessions.modifySession session op := by
    have h := congrArg Gateway.sessions hcore
    exact h
  have htokens : g'.reconnectTokens = g.reconnectTokens := by
    have h := congrArg Gateway.reconnectTokens hcore
    exact h
  rw [← GameSessionManager.modifySession_eq_self, ← hsessions]
  exact ⟨fun h => h.sessions, fun hsame => ⟨hsame, htokens, fun _ _ hout => by cases hout⟩⟩

theorem dispatchInput_unaffected_iff (g : Gateway R) (socket : SocketId) (ctx : SocketContext)
    (input : MovementInput R) : Unaffected g (g.dispatchInput socket ctx input, .settled) ↔
      ∀ session object, g.currentSession ctx = some session →
        g.sessions.object session = some object →
        ∀ queue, object.session.pendingInputs.get ctx.playerId = some queue →
          GameSession.FullOf input queue := by
  have hquiet : ∀ g', g'.core = g.core → (∀ session object, g.currentSession ctx = some session →
      g.sessions.object session ≠ some object) → (Unaffected g (g', .settled) ↔
        ∀ session object, g.currentSession ctx = some session →
          g.sessions.object session = some object →
          ∀ queue, object.session.pendingInputs.get ctx.playerId = some queue →
            GameSession.FullOf input queue) := by
    intro g' hcore hnone
    exact iff_of_true (unaffected_of_core hcore) fun session object hsession hobject =>
      absurd hobject (hnone session object hsession)
  unfold Gateway.dispatchInput
  split
  next hroom =>
    refine hquiet _ (Gateway.core_sendError _ _ _ _) fun session object hsession => ?_
    obtain ⟨roomId, hsome, -⟩ := Gateway.currentSession_eq_some hsession
    rw [hsome] at hroom
    cases hroom
  next =>
    split
    next hnone =>
      refine hquiet g rfl fun session object hsession => ?_
      cases hnone.symm.trans hsession
    next session hsession =>
      split
      next hobject =>
        refine hquiet g rfl fun other object hother hsome => ?_
        cases hsession.symm.trans hother
        cases hobject.symm.trans hsome
      next object hobject =>
        have hmodify := GameSessionManager.modifySession_of_object hobject
          fun s => (s.enqueueInput ctx.playerId input).1
        have hiff : (∀ o, g.sessions.object session = some o →
            (o.session.enqueueInput ctx.playerId input).1 = o.session) ↔
            ∀ session object, g.currentSession ctx = some session →
              g.sessions.object session = some object →
              ∀ queue, object.session.pendingInputs.get ctx.playerId = some queue →
                GameSession.FullOf input queue := by
          constructor
          · intro h session' object' hsession' hobject'
            cases hsession.symm.trans hsession'
            exact (GameSession.enqueueInput_eq_self _ _ _).mp (h object' hobject')
          · intro h o ho
            exact (GameSession.enqueueInput_eq_self _ _ _).mpr (h session o hsession ho)
        rw [← hiff]
        refine unaffected_act_iff (?_ : Gateway.core _ = { g.core with
          sessions := g.sessions.modifySession session fun s =>
            (s.enqueueInput ctx.playerId input).1 })
        rw [← hmodify]
        dsimp only
        split
        next => exact Gateway.core_send _ _ _
        next => rfl

end Replies

theorem dispatchPing_unaffected_iff (g : Gateway R) (now : Int) (socket : SocketId)
    (ctx : SocketContext) (clientTime : R) :
    Unaffected g (g.dispatchPing now socket ctx clientTime, .settled) ↔
      ∀ session object, g.currentSession ctx = some session →
        g.sessions.object session = some object →
        ∀ player, object.session.players.get ctx.playerId = some player →
          player.ping = max 0 (JsMath.round (max 0 ((now : R) - clientTime))) := by
  unfold Gateway.dispatchPing
  dsimp only
  split
  next hnone =>
    refine iff_of_true (unaffected_of_core (Gateway.core_send _ _ _)) ?_
    intro session object hsession
    cases hnone.symm.trans hsession
  next session hsession =>
    rw [unaffected_act_iff (Gateway.core_send _ _ _ : Gateway.core _ = { g.core with
      sessions := g.sessions.modifySession session fun s =>
        s.updatePing ctx.playerId (max 0 ((now : R) - clientTime)) })]
    have hping : ∀ s : GameSession R, s.updatePing ctx.playerId (max 0 ((now : R) - clientTime)) = s ↔
        ∀ player, s.players.get ctx.playerId = some player →
          player.ping = max 0 (JsMath.round (max 0 ((now : R) - clientTime))) := by
      intro s
      unfold GameSession.updatePing
      rw [GameSession.withPlayer_eq_self]
      refine forall₂_congr fun player _ => ⟨fun hsame => ?_, fun hsame => ?_⟩
      · exact (congrArg RuntimePlayerState.ping hsame).symm
      · rw [← hsame]
    constructor
    · intro h session' object hsession' hobject
      cases hsession.symm.trans hsession'
      exact (hping object.session).mp (h object hobject)
    · intro h object hobject
      exact (hping object.session).mpr (h session object hsession hobject)

theorem dispatch_unaffected_iff (g : Gateway R) (now : Int) (socket : SocketId)
    (ctx : SocketContext) (message : ClientMessage R) :
    Unaffected g (g.dispatch now socket ctx message) ↔ InertMessage g now ctx message := by
  cases message with
  | joinSession roomId token => exact joinSession_unaffected_iff g now socket ctx roomId token
  | input input => exact dispatchInput_unaffected_iff g socket ctx input
  | ping clientTime => exact dispatchPing_unaffected_iff g now socket ctx clientTime
  | heartbeat => exact iff_of_false (fun h => h.presence _ _ rfl trivial) id
  | requestSnapshot =>
    refine iff_of_true (unaffected_of_core ?_) trivial
    unfold Gateway.dispatchSnapshot
    split
    next => rfl
    next =>
      split
      next => rfl
      next => exact Gateway.core_send _ _ _

theorem onMessageLimited_unaffected_iff (rt : Runtime R) (g : Gateway R) (now : Int)
    (socket : SocketId) (ctx : SocketContext) (raw : String) (allowed : Bool) :
    Unaffected g (g.onMessageLimited rt now socket ctx raw allowed) ↔
      Inert rt g now ctx (.rateLimited raw) (.limit allowed) := by
  cases allowed with
  | false => exact iff_of_true (unaffected_of_core (Gateway.core_sendError _ _ _ _)) trivial
  | true =>
    simp only [Gateway.onMessageLimited, Inert, not_true_eq_false, if_false]
    cases hparse : rt.jsonParse raw with
    | none =>
      refine iff_of_true (unaffected_of_core (Gateway.core_sendError _ _ _ _)) ?_
      intro message hmessage
      cases hmessage
    | some parsed =>
      simp only [Option.bind_some]
      cases hschema : clientMessageSchema parsed with
      | none =>
        refine iff_of_true (unaffected_of_core (Gateway.core_sendError _ _ _ _)) ?_
        intro message hmessage
        cases hmessage
      | some message =>
        refine (dispatch_unaffected_iff g now socket ctx message).trans ?_
        constructor
        · intro h other hother
          cases hother
          exact h
        · exact fun h => h message rfl

theorem joinSessionRoom_unaffected_iff (rt : Runtime R) (g : Gateway R) (now : Int) (uuid : String)
    (socket : SocketId) (ctx : SocketContext) (roomId : String) (found : Option RoomEntity) :
    Unaffected g (g.joinSessionRoom now uuid socket ctx roomId found) ↔
      Inert rt g now ctx (.roomLookup roomId) (.room found) := by
  cases found with
  | none => exact iff_of_true ⟨rfl, rfl, fun _ _ hout => by cases hout⟩ trivial
  | some room =>
    simp only [Gateway.joinSessionRoom, getRoom, Inert]
    split
    next hmember =>
      exact iff_of_true (unaffected_of_core (Gateway.core_sendError _ _ _ _)) fun h => hmember h.1
    next hmember =>
      split
      next hstatus =>
        refine iff_of_true (unaffected_of_core (Gateway.core_sendError _ _ _ _)) fun h => ?_
        have hopen := h.2
        obtain ⟨hprogress, hwaiting⟩ := hstatus
        cases hroom : room.status with
        | waiting => exact hwaiting hroom
        | inProgress => exact hprogress hroom
        | closed => exact hopen hroom
      next hstatus =>
        refine iff_of_false (fun h => h.presence _ _ rfl trivial) fun h => h ⟨?_, ?_⟩
        · exact Classical.not_not.mp hmember
        · intro hclosed
          rw [hclosed] at hstatus
          exact hstatus ⟨by decide, by decide⟩

/-- A stretch has no effect if and only if it is inert. -/
theorem unaffected_iff {rt : Runtime R} {g : Gateway R} {now : Int} {uuid : String}
    {socket : SocketId} {ctx : SocketContext} {pc : FramePc} {answer : Answer}
    {result : Gateway R × Outcome FramePc}
    (h : g.resumeFrame rt now uuid socket ctx pc answer = some result) :
    Unaffected g result ↔ Inert rt g now ctx pc answer := by
  unfold Gateway.resumeFrame at h
  split at h
  next =>
    cases h
    refine iff_of_true ⟨rfl, rfl, fun _ _ hout => by cases hout⟩ ?_
    unfold Inert
    split <;> trivial
  next raw allowed =>
    cases h
    exact onMessageLimited_unaffected_iff rt g now socket ctx raw allowed
  next roomId found =>
    cases h
    exact joinSessionRoom_unaffected_iff rt g now uuid socket ctx roomId found
  next =>
    cases h
    refine iff_of_true (unaffected_of_core ?_) trivial
    unfold Gateway.joinSessionOnline
    split
    next => rfl
    next => exact (Gateway.core_send _ _ _).trans (Gateway.core_send _ _ _)
  next =>
    cases h
    exact iff_of_true (unaffected_of_core (Gateway.core_send _ _ _)) trivial
  next => cases h

omit [Field R] [LinearOrder R] [JsMath R] in
/-- The call a concluded handler waits for is the one its stretch ended with. -/
theorem presence_conclude_iff {Pc : Type} (s : Server R) (number : Nat) (origin : Handler)
    (resume : Pc → Handler) (after : Gateway R × Outcome Pc) :
    (∀ suspended, (s.conclude number origin resume after).handlers.get number = some suspended →
      ¬IsPresence suspended.call) ↔
    ∀ pc call, after.2 = .awaiting pc call → ¬IsPresence call := by
  simp only [Server.handlers_conclude, if_true]
  constructor
  · intro hall pc call hout
    exact hall ⟨resume pc, call⟩ (by rw [hout])
  · intro hall suspended hsuspended
    split at hsuspended
    next hout =>
      cases hsuspended
      exact hall _ _ hout
    next => cases hsuspended

omit [Field R] [LinearOrder R] [JsMath R] in
/-- A handler whose stretch ends like that of the frame it is about. -/
theorem withoutEffect_conclude_iff {Pc : Type} (s : Server R) (number : Nat) (origin : Handler)
    (resume : Pc → Handler) {result : Gateway R × Outcome FramePc} {after : Gateway R × Outcome Pc}
    (hcore : after.1.core = result.1.core)
    (hcalls : (∀ pc call, after.2 = .awaiting pc call → ¬IsPresence call) ↔
      ∀ pc call, result.2 = .awaiting pc call → ¬IsPresence call) :
    WithoutEffect s (s.conclude number origin resume after) number ↔
      Unaffected s.gateway result := by
  have hsessions := Gateway.sessions_of_core hcore
  have htokens := tokens_of_core hcore
  have hpresence := presence_conclude_iff s number origin resume after
  constructor
  · rintro ⟨hs, ht, hp⟩
    rw [Server.gateway_conclude] at hs ht
    exact ⟨hsessions ▸ hs, htokens ▸ ht, hcalls.mp (hpresence.mp hp)⟩
  · rintro ⟨hs, ht, hp⟩
    refine ⟨?_, ?_, hpresence.mpr (hcalls.mpr hp)⟩
    · rw [Server.gateway_conclude, hsessions, hs]
    · rw [Server.gateway_conclude, htokens, ht]

/-- A step that resumes the handler of a frame runs one stretch of it. -/
theorem resume_frame {env : Env R} {rt : Runtime R} {s t : Server R} {number : Nat} {now : Int}
    {uuid : String} {answer : Answer} {suspended : Suspended} {socket : SocketId} {pc : FramePc}
    (hget : s.handlers.get number = some suspended)
    (hframe : frameOf suspended.handler = some (socket, pc))
    (h : s.resume env rt number now uuid answer = some t) :
    ∃ ctx result, s.gateway.contexts.get socket = some ctx ∧
      s.gateway.resumeFrame rt now uuid socket ctx pc answer = some result ∧
      (WithoutEffect s t number ↔ Unaffected s.gateway result) := by
  obtain ⟨handler, call⟩ := suspended
  cases handler with
  | message socket' pc' =>
    cases hframe
    simp only [Server.resume, hget] at h
    obtain ⟨ctx, hctx, h⟩ := Option.bind_eq_some_iff.mp h
    obtain ⟨result, hresult, rfl⟩ := Option.map_eq_some_iff.mp h
    exact ⟨ctx, result, hctx, hresult, withoutEffect_conclude_iff s number _ _ rfl Iff.rfl⟩
  | connection socket' pc' =>
    cases pc' with
    | early rest pc' =>
      cases hframe
      simp only [Server.resume, hget] at h
      obtain ⟨wire, -, h⟩ := Option.bind_eq_some_iff.mp h
      obtain ⟨after, hafter, rfl⟩ := Option.map_eq_some_iff.mp h
      obtain ⟨ctx, hctx, hafter⟩ := Option.bind_eq_some_iff.mp hafter
      obtain ⟨⟨g, outcome⟩, hresult, rfl⟩ := Option.map_eq_some_iff.mp hafter
      refine ⟨ctx, (g, outcome), hctx, hresult, withoutEffect_conclude_iff s number _ _ ?_ ?_⟩
      · cases outcome with
        | rejected reason => exact Gateway.core_refuseConnection g _
        | _ => rfl
      · -- the handler goes on with the next frame or waits for what this one waits for
        cases outcome with
        | settled =>
          refine iff_of_true (fun pc call hout => ?_) fun pc call hout => by cases hout
          cases hout
          exact id
        | rejected reason =>
          exact iff_of_true (fun pc call hout => by cases hout) fun pc call hout => by cases hout
        | awaiting pc call =>
          constructor
          · intro hall pc' call' hout
            cases hout
            exact hall _ _ rfl
          · intro hall pc' call' hout
            cases hout
            exact hall _ _ rfl
    | _ => cases hframe
  | close => cases hframe

/-- Along a run handlers of dead connections have no effect if and only if all their
steps are inert. -/
theorem dead_without_effect_iff (env : Env R) (rt : Runtime R) (events : List ServerEvent) :
    (recorded env rt).StepsMeet (DeadWithoutEffect env rt) (Server.empty, []) events ↔
      (recorded env rt).StepsMeet (DeadInert rt) (Server.empty, []) events := by
  refine Machine.stepsMeet_congr fun p event q hrecorded => ?_
  obtain ⟨hstep, -⟩ := Machine.recording_step hrecorded
  constructor
  · intro hdead number now uuid answer suspended socket pc ctx hevent hget hframe hsocket hctx
    subst hevent
    obtain ⟨ctx', result, hctx', hresult, hiff⟩ := resume_frame hget hframe hstep
    cases hctx.symm.trans hctx'
    have heffect := hdead number now uuid answer suspended socket pc q.1 rfl hget hframe hsocket hstep
    exact (unaffected_iff hresult).mp (hiff.mp heffect)
  · intro hinert number now uuid answer suspended socket pc t hevent hget hframe hsocket ht
    subst hevent
    obtain ⟨ctx, result, hctx, hresult, hiff⟩ := resume_frame hget hframe ht
    have hquiet := hinert number now uuid answer suspended socket pc ctx rfl hget hframe hsocket hctx
    exact hiff.mpr ((unaffected_iff hresult).mpr hquiet)

/-- A client connects, sends `join_session` and is gone before the lobby answers. -/
def closingWhileJoining : List ServerEvent :=
  [.connect 0 request, .answer 0 0 "" (.limit true), .answer 0 0 "" .done, .frame 0 joinText,
    .answer 1 0 "" (.limit true), .close 0]

/-- The lobby's answer, with the player among the members. -/
def lobbyAnswers : ServerEvent :=
  .answer 1 0 "reconnect-1" (.room (some ⟨arena, "ABC123", "Arena", "p1", 4, .waiting,
    [⟨"m1", arena, "p1", "nova", false, 0⟩]⟩))

/-- The player enters the session after the connection is dead. -/
theorem dead_connection_joins :
    ¬(recorded defaultEnv runtime).StepsMeet (DeadWithoutEffect defaultEnv runtime)
      (Server.empty, []) (closingWhileJoining ++ [lobbyAnswers]) := by
  intro hmeet
  have hrun : (((recorded defaultEnv runtime).exec (Server.empty, []) closingWhileJoining).bind
      fun p => (p.1.step defaultEnv runtime lobbyAnswers).map fun t =>
        (p.2, p.1.handlers.get 1, p.1.gateway.sessions.get arena,
          t.gateway.sessions.get arena)) =
      some ([0], some ⟨.message 0 (.roomLookup arena), .findById arena⟩, none, some 0) := rfl
  obtain ⟨p, hp, hrun⟩ := Option.bind_eq_some_iff.mp hrun
  obtain ⟨t, ht, hfacts⟩ := Option.map_eq_some_iff.mp hrun
  simp only [Prod.mk.injEq] at hfacts
  obtain ⟨hdead, hhandler, hbefore, hafter⟩ := hfacts
  have hlast := (Machine.stepsMeet_append.mp hmeet).2 p hp
  have hstep : (recorded defaultEnv runtime).step p lobbyAnswers =
      some (t, p.2 ++ endedBy runtime p.1 lobbyAnswers) := by
    have hserver : (Server.machine defaultEnv runtime).step p.1 lobbyAnswers = some t := ht
    simp only [recorded, Machine.recording, hserver, Option.map_some]
  have hsocket : 0 ∈ p.2 := by
    rw [hdead]
    exact List.mem_singleton_self 0
  have heffect := (hlast _ hstep).1 1 0 "reconnect-1" _ _ 0 (.roomLookup arena) t rfl hhandler rfl
    hsocket ht
  rw [heffect.sessions, hbefore] at hafter
  cases hafter

end RealtimeGameServer.Guarantees.DeadConnections
