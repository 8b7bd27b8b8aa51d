import RealtimeGameServer.Source.Deployment

/-!
# What the handlers of a socket call

A handler asks the rate limiter for the budget of its socket's address or player, and
tells presence of its socket's player only. `Owns` says so of the handlers in flight.
It survives the steps of the others because a socket keeps its upgrade request and the
player of its context object.
-/
namespace RealtimeGameServer.Source
open Lib

namespace Gateway
variable {R : Type}

def request (g : Gateway R) (socket : SocketId) : Option Request :=
  (g.wires.get socket).map Wire.request

def player (g : Gateway R) (socket : SocketId) : Option String :=
  (g.contexts.get socket).map SocketContext.playerId

/-- The sockets have the requests they had. -/
def SameRequests (g g' : Gateway R) : Prop := ∀ i, g'.request i = g.request i

theorem SameRequests.refl (g : Gateway R) : SameRequests g g := fun _ => rfl

theorem SameRequests.trans {g g' g'' : Gateway R} (h : SameRequests g g')
    (h' : SameRequests g' g'') : SameRequests g g'' := fun i => (h' i).trans (h i)

theorem sameRequests_of_wires {g g' : Gateway R} (h : g'.wires = g.wires) :
    SameRequests g g' := by
  intro i
  unfold request
  rw [h]

theorem sameRequests_modifyWire (g : Gateway R) (socket : SocketId) {f : Wire → Wire}
    (hf : ∀ wire, (f wire).request = wire.request) : SameRequests g (g.modifyWire socket f) := by
  intro i
  unfold request
  rw [get_modifyWire]
  split
  next =>
    rw [Option.map_map]
    congr 1
    funext wire
    exact hf wire
  next => rfl

theorem sameRequests_closeSocket (g : Gateway R) (socket : SocketId) :
    SameRequests g (g.closeSocket socket) :=
  sameRequests_modifyWire g socket fun wire => by split <;> rfl

theorem sameRequests_offEarly (g : Gateway R) (socket : SocketId) :
    SameRequests g (g.offEarly socket) :=
  sameRequests_modifyWire g socket fun wire => by split <;> rfl

theorem sameRequests_refuse (g : Gateway R) (socket : SocketId) :
    SameRequests g (g.refuseConnection socket) :=
  ((sameRequests_offEarly g socket).trans (sameRequests_of_wires (sendError_wires _ _ _ _))).trans
    (sameRequests_closeSocket _ socket)

theorem sameRequests_register (g : Gateway R) (socket : SocketId) (payload : AccessTokenPayload) :
    SameRequests g (g.register socket payload) := by
  unfold register replaceExistingSocket
  dsimp only
  split
  next => exact .refl g
  next existing _ => exact sameRequests_closeSocket g existing

theorem sameRequests_onClose (g : Gateway R) (socket : SocketId) :
    SameRequests g (g.onClose socket).1 := by
  refine sameRequests_of_wires ?_
  unfold onClose
  split
  next => rfl
  next =>
    dsimp only
    split <;> split <;> rfl

theorem sameRequests_shutdown (sockets : List SocketId) (g : Gateway R) :
    SameRequests g (sockets.foldl closeSocket g) := by
  induction sockets generalizing g with
  | nil => exact .refl g
  | cons socket rest ih => exact (sameRequests_closeSocket g socket).trans (ih _)

variable [Field R] [LinearOrder R] [JsMath R]

omit [JsMath R] in
theorem sameRequests_drain (env : Env R) (g : Gateway R) (socket : SocketId)
    (messages : List String) : SameRequests g (g.drainEarly env socket messages).1 := by
  cases messages with
  | nil => exact .refl g
  | cons raw rest =>
    have hsame := sameRequests_of_wires (keepsSockets_onMessage env g socket raw).wires
    simp only [drainEarly]
    split <;> rename_i heq <;> rw [heq] at hsame
    next => exact hsame
    next => exact hsame.trans (sameRequests_refuse _ socket)
    next => exact hsame

theorem ConnectionRuns.requests {env : Env R} {rt : Runtime R} {g : Gateway R} {now : Int}
    {uuid : String} {socket : SocketId} {wire : Wire} {pc : ConnectionPc} {answer : Answer}
    {result : Gateway R × Outcome ConnectionPc}
    (h : ConnectionRuns env rt g now uuid socket wire pc answer result) :
    SameRequests g result.1 := by
  cases h with
  | limited => exact (sameRequests_offEarly g socket).trans (sameRequests_closeSocket _ socket)
  | @registered payload => exact sameRequests_register g socket payload
  | listening =>
    have hwire : SameRequests g (g.modifyWire socket fun wire =>
        { wire with listening := .live, closeListener := true }) :=
      sameRequests_modifyWire g socket fun _ => rfl
    exact hwire.trans (sameRequests_drain env _ socket _)
  | @early rest framePc answer ctx result context ran =>
    have hframe : SameRequests g result.1 := sameRequests_of_wires (resumeFrame_wires ran)
    obtain ⟨after, outcome⟩ := result
    cases outcome with
    | rejected reason => exact hframe.trans (sameRequests_refuse after socket)
    | _ => exact hframe
  | drained => exact sameRequests_drain env g socket _
  | _ => exact sameRequests_refuse g socket

theorem sameRequests_tick (env : Env R) (g : Gateway R) (now : Int) (session : SessionId)
    (object : SessionObject R) : SameRequests g (g.tick env now session object) := by
  obtain ⟨new, heq, -⟩ := tick_broadcasts env g now session object
  rw [heq]
  exact fun _ => rfl

end Gateway

namespace Server
variable {R : Type} [Field R] [LinearOrder R] [JsMath R]

/-- A socket has the request it connected with. -/
theorem Moves.requests {env : Env R} {rt : Runtime R} {s t : Server R} {event : ServerEvent}
    (h : Moves env rt s t event) (i : SocketId) : t.gateway.request i = s.gateway.request i ∨
      ∃ request, event = .connect i request ∧ s.gateway.request i = none ∧
        t.gateway.request i = some request := by
  cases h with
  | @connected socket request _ unknown gateway goes =>
    rw [gateway]
    unfold Gateway.request
    by_cases hi : i = socket
    · subst hi
      rw [unknown, JsMap.get_set_self]
      exact Or.inr ⟨request, rfl, rfl, rfl⟩
    · rw [JsMap.get_set_of_ne _ hi]
      exact Or.inl rfl
  | buffered gateway handlers =>
    rw [gateway]
    refine Or.inl (Gateway.sameRequests_modifyWire _ _ (fun _ => ?_) i)
    rfl
  | received gateway goes =>
    rw [gateway]
    exact Or.inl (Gateway.sameRequests_of_wires (Gateway.keepsSockets_onMessage env _ _ _).wires i)
  | ignored same =>
    rw [same]
    exact Or.inl rfl
  | frame handler context ran gateway goes =>
    rw [gateway]
    exact Or.inl (Gateway.sameRequests_of_wires (Gateway.resumeFrame_wires ran) i)
  | connection handler known ran gateway goes =>
    rw [gateway]
    exact Or.inl (ran.requests i)
  | offline handler gateway goes =>
    rw [gateway]
    exact Or.inl rfl
  | @closed socket wire g known listens wired gateway goes =>
    rw [gateway]
    refine Or.inl ((Gateway.sameRequests_onClose g socket i).trans ?_)
    rw [wired]
    refine Gateway.sameRequests_modifyWire _ _ (fun _ => ?_) i
    rfl
  | unheard known deaf gateway handlers =>
    rw [gateway]
    refine Or.inl (Gateway.sameRequests_modifyWire _ _ (fun _ => ?_) i)
    rfl
  | ticked current running gateway handlers =>
    rw [gateway]
    exact Or.inl (Gateway.sameRequests_tick env _ _ _ _ i)
  | destroyed gateway handlers =>
    rw [gateway]
    exact Or.inl rfl
  | shutDown gateway handlers =>
    rw [gateway]
    exact Or.inl (Gateway.sameRequests_shutdown _ _ i)

theorem Moves.request {env : Env R} {rt : Runtime R} {s t : Server R} {event : ServerEvent}
    (h : Moves env rt s t event) {i : SocketId} {request : Request}
    (hi : s.gateway.request i = some request) : t.gateway.request i = some request := by
  rcases h.requests i with hsame | ⟨_, -, hnone, -⟩
  · exact hsame.trans hi
  · cases hnone.symm.trans hi

omit [Field R] [LinearOrder R] [JsMath R] in
/-- Its context object is made for the player of the token in that request. -/
theorem Connects.players {rt : Runtime R} {s t : Server R} {event : ServerEvent}
    (hs : s.Connecting) (h : Connects rt s t event) (i : SocketId) :
    t.gateway.player i = s.gateway.player i ∨ ∃ request payload,
      s.gateway.request i = some request ∧ authenticate rt request = some payload ∧
        s.gateway.player i = none ∧ t.gateway.player i = some payload.playerId := by
  cases h with
  | kept same limited => exact Or.inl (same.players i)
  | connected unknown gateway limited =>
    rw [gateway]
    exact Or.inl rfl
  | @registered number now uuid socket wire payload pending known authenticated gateway limited =>
    rw [gateway]
    unfold Gateway.player
    rw [Gateway.contexts_register]
    by_cases hi : i = socket
    · subst hi
      rw [(hs.fresh number i pending).1, if_pos rfl]
      refine Or.inr ⟨wire.request, payload, ?_, authenticated, rfl, rfl⟩
      rw [Gateway.request, known]
      rfl
    · rw [if_neg hi]
      exact Or.inl rfl
  | closed known listens wired gateway limited =>
    rw [gateway, Gateway.player, Gateway.onClose_contexts, wired, Gateway.modifyWire_contexts]
    exact Or.inl rfl
  | unheard known deaf gateway limited =>
    rw [gateway, Gateway.player, Gateway.modifyWire_contexts]
    exact Or.inl rfl

omit [Field R] [LinearOrder R] [JsMath R] in
theorem Connects.player {rt : Runtime R} {s t : Server R} {event : ServerEvent}
    (hs : s.Connecting) (h : Connects rt s t event) {i : SocketId} {playerId : String}
    (hi : s.gateway.player i = some playerId) : t.gateway.player i = some playerId := by
  rcases h.players hs i with hsame | ⟨_, _, -, -, hnone, -⟩
  · exact hsame.trans hi
  · cases hnone.symm.trans hi

end Server

def Handler.socket : Handler → SocketId
  | .message socket _ | .connection socket _ | .close socket => socket

/-- The key a handler asks the rate limiter about, with its limit and window. -/
def Handler.budget {R : Type} [Field R] [LinearOrder R] (env : Env R) (g : Gateway R) :
    Handler → Option (String × Nat × Nat)
  | .connection socket .ipLimited => (g.request socket).map fun request =>
      ("ws-connect:" ++ clientIp env request, env.wsConnectRateLimitPerMinute, 60)
  | handler => (g.player handler.socket).map fun playerId =>
      ("ws:" ++ playerId, env.wsRateLimitPerSecond, 1)

/-- A handler asks for a budget of its socket, and tells presence of its socket's player. -/
def Suspended.Own {R : Type} [Field R] [LinearOrder R] (env : Env R) (g : Gateway R)
    (suspended : Suspended) : Prop :=
  match suspended.call with
  | .consume key limit windowSeconds =>
    suspended.handler.budget env g = some (key, limit, windowSeconds)
  | .setOnline playerId _ | .heartbeat playerId _ | .setOffline playerId =>
    g.player suspended.handler.socket = some playerId
  | .findById _ | .settled => True

/-- What a frame's handler asks for after the rate limiter. -/
inductive FrameAsks (playerId : String) : ExternalCall → Prop
  | room {roomId : String} : FrameAsks playerId (.findById roomId)
  | joined {roomId : Option String} : FrameAsks playerId (.setOnline playerId roomId)
  | alive {roomId : Option String} : FrameAsks playerId (.heartbeat playerId roomId)

namespace Gateway
variable {R : Type} [Field R] [LinearOrder R] [JsMath R]

omit [JsMath R] in
theorem onMessage_asks {env : Env R} {g : Gateway R} {socket : SocketId} {raw : String}
    {pc : FramePc} {call : ExternalCall} (h : (g.onMessage env socket raw).2 = .awaiting pc call) :
    ∃ playerId, g.player socket = some playerId ∧
      call = .consume ("ws:" ++ playerId) env.wsRateLimitPerSecond 1 := by
  unfold onMessage at h
  split at h
  next => cases h
  next ctx hctx =>
    have hplayer : g.player socket = some ctx.playerId := by
      rw [player, (mem_sockets_of_registered hctx).2]
      rfl
    split at h <;> cases h
    exact ⟨ctx.playerId, hplayer, rfl⟩

theorem dispatch_asks {g : Gateway R} {now : Int} {socket : SocketId} {ctx : SocketContext}
    {message : ClientMessage R} {pc : FramePc} {call : ExternalCall}
    (h : (g.dispatch now socket ctx message).2 = .awaiting pc call) :
    FrameAsks ctx.playerId call := by
  cases message with
  | joinSession roomId token =>
    simp only [dispatch, joinSession] at h
    split at h
    next =>
      cases h
      exact .room
    next =>
      split at h <;> cases h
      exact .room
  | heartbeat =>
    cases h
    exact .alive
  | _ => cases h

theorem resumeFrame_asks {rt : Runtime R} {g : Gateway R} {now : Int} {uuid : String}
    {socket : SocketId} {ctx : SocketContext} {pc next : FramePc} {answer : Answer}
    {result : Gateway R × Outcome FramePc} {call : ExternalCall}
    (h : g.resumeFrame rt now uuid socket ctx pc answer = some result)
    (hout : result.2 = .awaiting next call) : FrameAsks ctx.playerId call := by
  unfold resumeFrame at h
  split at h
  next =>
    cases h
    cases hout
  next raw allowed =>
    cases h
    unfold onMessageLimited at hout
    split at hout
    next => cases hout
    next =>
      split at hout
      next => cases hout
      next =>
        split at hout
        next => cases hout
        next => exact dispatch_asks hout
  next roomId found =>
    cases h
    unfold joinSessionRoom at hout
    split at hout
    next => cases hout
    next =>
      split at hout
      next => cases hout
      next =>
        split at hout
        next => cases hout
        next =>
          cases hout
          exact .joined
  next =>
    cases h
    cases hout
  next =>
    cases h
    cases hout
  next => cases h

omit [JsMath R] in
theorem drainEarly_asks {env : Env R} {g : Gateway R} {socket : SocketId}
    {messages : List String} {pc : ConnectionPc} {call : ExternalCall}
    (h : (g.drainEarly env socket messages).2 = .awaiting pc call) :
    call = .settled ∨ (∃ rest framePc, pc = .early rest framePc) ∧
      ∃ playerId, g.player socket = some playerId ∧
        call = .consume ("ws:" ++ playerId) env.wsRateLimitPerSecond 1 := by
  cases messages with
  | nil => cases h
  | cons raw rest =>
    simp only [drainEarly] at h
    split at h <;> rename_i heq <;> cases h
    next => exact Or.inl rfl
    next => exact Or.inr ⟨⟨_, _, rfl⟩, onMessage_asks (congrArg Prod.snd heq)⟩

omit [Field R] [LinearOrder R] [JsMath R] in
theorem onClose_asks {g : Gateway R} {socket : SocketId} {call : ExternalCall}
    (h : (g.onClose socket).2 = .awaiting () call) :
    ∃ playerId, g.owner socket = some playerId ∧ call = .setOffline playerId := by
  unfold onClose at h
  split at h
  next => cases h
  next ctx hctx =>
    cases h
    refine ⟨ctx.playerId, ?_, rfl⟩
    rw [owner, hctx]
    rfl

end Gateway

namespace Server
variable {R : Type}

/-- Numbers are given out in order. -/
def Unstarted (s : Server R) : Prop := ∀ number, s.started ≤ number → s.handlers.get number = none

theorem unstarted_empty : Unstarted (empty : Server R) := fun _ _ => rfl

theorem started_conclude {Pc : Type} (s : Server R) (number : Nat) (origin : Handler)
    (resume : Pc → Handler) (result : Gateway R × Outcome Pc) :
    (s.conclude number origin resume result).started = s.started := by
  unfold conclude
  split <;> rfl

theorem Unstarted.conclude {Pc : Type} {s : Server R} (h : Unstarted s) {number : Nat}
    (hnumber : number < s.started) (origin : Handler) (resume : Pc → Handler)
    (result : Gateway R × Outcome Pc) : Unstarted (s.conclude number origin resume result) := by
  intro i hi
  rw [started_conclude] at hi
  rw [goes_conclude s number origin resume result i, if_neg (Nat.ne_of_gt (hnumber.trans_le hi))]
  exact h i hi

theorem Unstarted.launch {Pc : Type} {s : Server R} (h : Unstarted s) (origin : Handler)
    (resume : Pc → Handler) (result : Gateway R × Outcome Pc) :
    Unstarted (s.launch origin resume result) := by
  have hnext : Unstarted { s with started := s.started + 1 } :=
    fun number hnumber => h number (Nat.le_of_succ_le hnumber)
  exact hnext.conclude (Nat.lt_succ_self _) origin resume result

theorem Unstarted.lt {s : Server R} (h : Unstarted s) {number : Nat} {suspended : Suspended}
    (hget : s.handlers.get number = some suspended) : number < s.started := by
  by_contra hge
  cases hget.symm.trans (h number (Nat.le_of_not_lt hge))

variable [Field R] [LinearOrder R] [JsMath R]

theorem Unstarted.step {env : Env R} {rt : Runtime R} {s t : Server R} {event : ServerEvent}
    (h : Unstarted s) (hstep : (machine env rt).step s event = some t) : Unstarted t := by
  change s.step env rt event = some t at hstep
  cases event with
  | connect socket request =>
    simp only [Server.step, connect] at hstep
    split at hstep <;> cases hstep
    exact h.launch _ _ _
  | frame socket raw =>
    simp only [Server.step, Server.frame] at hstep
    split at hstep
    next => cases hstep
    next =>
      split at hstep
      next => cases hstep
      next =>
        split at hstep <;> cases hstep
        next => exact h
        next => exact h.launch _ _ _
        next => exact h
  | answer number now uuid answer =>
    simp only [Server.step, Server.resume] at hstep
    split at hstep
    next => cases hstep
    next hget =>
      obtain ⟨ctx, -, hresult⟩ := Option.bind_eq_some_iff.mp hstep
      obtain ⟨result, -, rfl⟩ := Option.map_eq_some_iff.mp hresult
      exact h.conclude (h.lt hget) _ _ _
    next hget =>
      obtain ⟨wire, -, hresult⟩ := Option.bind_eq_some_iff.mp hstep
      obtain ⟨result, -, rfl⟩ := Option.map_eq_some_iff.mp hresult
      exact h.conclude (h.lt hget) _ _ _
    next hget =>
      split at hstep <;> cases hstep
      all_goals exact h.conclude (h.lt hget) _ _ _
  | close socket =>
    simp only [Server.step, Server.close] at hstep
    split at hstep
    next => cases hstep
    next =>
      split at hstep
      next => cases hstep
      next =>
        split at hstep <;> cases hstep
        next => exact Unstarted.launch h _ _ _
        next => exact h
  | tick session now =>
    simp only [Server.step, Server.tick] at hstep
    split at hstep
    next => cases hstep
    next =>
      split at hstep <;> cases hstep
      exact h
  | destroy roomId =>
    cases hstep
    exact h
  | shutdown =>
    cases hstep
    exact h

theorem Moves.others {env : Env R} {rt : Runtime R} {s t : Server R} {event : ServerEvent}
    (h : Moves env rt s t event) {i : Nat} (hi : s.turn event ≠ some i) :
    t.handlers.get i = s.handlers.get i := by
  have hgoes : ∀ {number : Nat} {next : Option Suspended}, Goes s t number next →
      s.turn event = some number → t.handlers.get i = s.handlers.get i := by
    intro number next goes hturn
    rw [goes i, if_neg]
    rintro rfl
    exact hi hturn
  cases h with
  | connected unknown gateway goes => exact hgoes goes rfl
  | received gateway goes => exact hgoes goes rfl
  | ignored same => rw [same]
  | frame handler context ran gateway goes => exact hgoes goes rfl
  | connection handler known ran gateway goes => exact hgoes goes rfl
  | offline handler gateway goes => exact hgoes goes rfl
  | closed known listens wired gateway goes => exact hgoes goes rfl
  | buffered gateway handlers => rw [handlers]
  | unheard known deaf gateway handlers => rw [handlers]
  | ticked current running gateway handlers => rw [handlers]
  | destroyed gateway handlers => rw [handlers]
  | shutDown gateway handlers => rw [handlers]

/-- Every handler in flight asks for what is its own. -/
structure Owns (env : Env R) (s : Server R) : Prop where
  connecting : s.Connecting
  unstarted : s.Unstarted
  own : ∀ number suspended, s.handlers.get number = some suspended → suspended.Own env s.gateway

omit [JsMath R] in
theorem owns_empty (env : Env R) : Owns env (empty : Server R) :=
  ⟨connecting_empty, unstarted_empty, fun _ _ h => by cases h⟩

omit [JsMath R] in
theorem budget_keep {env : Env R} {g g' : Gateway R}
    (hrequests : ∀ i request, g.request i = some request → g'.request i = some request)
    (hplayers : ∀ i playerId, g.player i = some playerId → g'.player i = some playerId)
    {handler : Handler} {budget : String × Nat × Nat} (h : handler.budget env g = some budget) :
    handler.budget env g' = some budget := by
  have hplayer : ∀ socket, (g.player socket).map (fun playerId =>
      ("ws:" ++ playerId, env.wsRateLimitPerSecond, 1)) = some budget →
      (g'.player socket).map (fun playerId =>
        ("ws:" ++ playerId, env.wsRateLimitPerSecond, 1)) = some budget := by
    intro socket hbudget
    obtain ⟨playerId, hget, heq⟩ := Option.map_eq_some_iff.mp hbudget
    exact Option.map_eq_some_iff.mpr ⟨playerId, hplayers socket playerId hget, heq⟩
  cases handler with
  | connection socket pc =>
    cases pc with
    | ipLimited =>
      obtain ⟨request, hget, heq⟩ := Option.map_eq_some_iff.mp h
      exact Option.map_eq_some_iff.mpr ⟨request, hrequests socket request hget, heq⟩
    | _ => exact hplayer socket h
  | message socket pc => exact hplayer socket h
  | close socket => exact hplayer socket h

omit [JsMath R] in
theorem own_keep {env : Env R} {g g' : Gateway R}
    (hrequests : ∀ i request, g.request i = some request → g'.request i = some request)
    (hplayers : ∀ i playerId, g.player i = some playerId → g'.player i = some playerId)
    {suspended : Suspended} (h : suspended.Own env g) : suspended.Own env g' := by
  obtain ⟨handler, call⟩ := suspended
  cases call with
  | consume key limit windowSeconds => exact budget_keep hrequests hplayers h
  | setOnline playerId roomId => exact hplayers _ _ h
  | heartbeat playerId roomId => exact hplayers _ _ h
  | setOffline playerId => exact hplayers _ _ h
  | findById | settled => trivial

omit [JsMath R] in
theorem own_asks {env : Env R} {g : Gateway R} {handler : Handler} {playerId : String}
    (hplayer : g.player handler.socket = some playerId) {call : ExternalCall}
    (h : FrameAsks playerId call) : Suspended.Own env g ⟨handler, call⟩ := by
  cases h with
  | room => trivial
  | joined => exact hplayer
  | alive => exact hplayer

omit [JsMath R] in
theorem own_budget {env : Env R} {g : Gateway R} {handler : Handler} {playerId : String}
    (hplayer : g.player handler.socket = some playerId)
    (hplace : ∀ socket, handler ≠ .connection socket .ipLimited) :
    Suspended.Own env g ⟨handler, .consume ("ws:" ++ playerId) env.wsRateLimitPerSecond 1⟩ := by
  have hbudget : (g.player handler.socket).map (fun playerId =>
      ("ws:" ++ playerId, env.wsRateLimitPerSecond, 1)) =
        some ("ws:" ++ playerId, env.wsRateLimitPerSecond, 1) := by
    rw [hplayer]
    rfl
  cases handler with
  | connection socket pc =>
    cases pc with
    | ipLimited => exact absurd rfl (hplace socket)
    | _ => exact hbudget
  | message socket pc => exact hbudget
  | close socket => exact hbudget

omit [JsMath R] in
theorem connect_budget {env : Env R} {s t : Server R} {socket : SocketId} {request : Request}
    (h : s.connect env socket request = some t) :
    t.gateway.request socket = some request ∧ t.handlers.get s.started =
      some ⟨.connection socket .ipLimited, .consume ("ws-connect:" ++ clientIp env request)
        env.wsConnectRateLimitPerMinute 60⟩ := by
  unfold connect at h
  split at h <;> cases h
  constructor
  · rw [gateway_launch, Gateway.request, JsMap.get_set_self]
    rfl
  · rw [goes_launch s _ _ _ s.started, if_pos rfl]
    rfl

/-- The handler whose turn it was asks for what is its own. -/
theorem Owns.next {env : Env R} {rt : Runtime R} {s t : Server R} {event : ServerEvent}
    (hs : Owns env s) (hstep : (machine env rt).step s event = some t) {number : Nat}
    {suspended : Suspended} (hturn : s.turn event = some number)
    (hget : t.handlers.get number = some suspended) : suspended.Own env t.gateway := by
  have hmoves := moves hstep
  have hplayers : ∀ i playerId, s.gateway.player i = some playerId →
      t.gateway.player i = some playerId := fun _ _ => hmoves.connects.player hs.connecting
  cases hmoves with
  | connected unknown gateway goes =>
    cases hturn
    obtain ⟨hrequest, hnext⟩ := connect_budget hstep
    cases hget.symm.trans hnext
    change Option.map _ _ = _
    rw [hrequest]
    rfl
  | buffered gateway handlers =>
    cases hturn
    rw [handlers, hs.unstarted _ le_rfl] at hget
    cases hget
  | @received socket raw gateway goes =>
    cases hturn
    rw [goes s.started, if_pos rfl] at hget
    obtain ⟨pc, call, hout, rfl⟩ := Outcome.next_eq_some hget
    obtain ⟨playerId, hplayer, rfl⟩ := Gateway.onMessage_asks hout
    exact own_budget (hplayers _ _ hplayer) fun _ heq => by cases heq
  | ignored same =>
    cases hturn
    rw [same, hs.unstarted _ le_rfl] at hget
    cases hget
  | @frame _ _ _ _ socket pc call ctx result handler context ran gateway goes =>
    cases hturn
    rw [goes _, if_pos rfl] at hget
    obtain ⟨pc, call, hout, rfl⟩ := Outcome.next_eq_some hget
    have hplayer : s.gateway.player socket = some ctx.playerId := by
      rw [Gateway.player, context]
      rfl
    exact own_asks (hplayers socket _ hplayer) (Gateway.resumeFrame_asks ran hout)
  | @connection _ _ _ _ socket pc call wire result handler known ran gateway goes =>
    cases hturn
    rw [goes _, if_pos rfl] at hget
    obtain ⟨next, call, hout, rfl⟩ := Outcome.next_eq_some hget
    cases ran with
    | @registered payload authenticated =>
      cases hout
      change t.gateway.player socket = some payload.playerId
      rw [gateway, Gateway.player, Gateway.contexts_register, if_pos rfl]
      rfl
    | listening =>
      rcases Gateway.drainEarly_asks hout with rfl | ⟨⟨rest, framePc, rfl⟩, playerId, hplayer, rfl⟩
      · trivial
      · refine own_budget (hplayers socket playerId ?_) fun _ heq => by cases heq
        rw [Gateway.player, Gateway.modifyWire_contexts] at hplayer
        exact hplayer
    | @early rest framePc answer ctx result context ran =>
      obtain ⟨after, outcome⟩ := result
      have hplayer : s.gateway.player socket = some ctx.playerId := by
        rw [Gateway.player, context]
        rfl
      cases outcome with
      | settled =>
        cases hout
        trivial
      | rejected reason => cases hout
      | awaiting framePc' call' =>
        cases hout
        exact own_asks (hplayers socket _ hplayer) (Gateway.resumeFrame_asks ran rfl)
    | drained =>
      rcases Gateway.drainEarly_asks hout with rfl | ⟨⟨rest, framePc, rfl⟩, playerId, hplayer, rfl⟩
      · trivial
      · exact own_budget (hplayers socket playerId hplayer) fun _ heq => by cases heq
    | _ => cases hout
  | offline handler gateway goes =>
    cases hturn
    rw [goes _, if_pos rfl] at hget
    cases hget
  | @closed socket wire g known listens wired gateway goes =>
    cases hturn
    rw [goes _, if_pos rfl] at hget
    obtain ⟨pc, call, hout, rfl⟩ := Outcome.next_eq_some hget
    obtain ⟨playerId, howner, rfl⟩ := Gateway.onClose_asks hout
    refine hplayers socket playerId ?_
    have hplayer := (Gateway.owner_eq_some.mp howner).2
    rw [wired, Gateway.modifyWire_contexts] at hplayer
    exact hplayer
  | unheard known deaf gateway handlers =>
    cases hturn
    rw [handlers, hs.unstarted _ le_rfl] at hget
    cases hget
  | ticked => cases hturn
  | destroyed => cases hturn
  | shutDown => cases hturn

theorem Owns.step {env : Env R} {rt : Runtime R} {s t : Server R} {event : ServerEvent}
    (h : Owns env s) (hstep : (machine env rt).step s event = some t) : Owns env t where
  connecting := h.connecting.step (moves hstep).connects
  unstarted := h.unstarted.step hstep
  own := by
    intro number suspended hget
    by_cases hturn : s.turn event = some number
    · exact h.next hstep hturn hget
    · rw [(moves hstep).others hturn] at hget
      exact own_keep (fun _ _ => (moves hstep).request)
        (fun _ _ => (moves hstep).connects.player h.connecting) (h.own number suspended hget)

/-- What a handler asks the rate limiter about stays what it is. -/
theorem Owns.budget {env : Env R} {rt : Runtime R} {s t : Server R} {event : ServerEvent}
    (h : Owns env s) (hstep : (machine env rt).step s event = some t) {handler : Handler}
    {budget : String × Nat × Nat} (hbudget : handler.budget env s.gateway = some budget) :
    handler.budget env t.gateway = some budget :=
  budget_keep (fun _ _ => (moves hstep).request)
    (fun _ _ => (moves hstep).connects.player h.connecting) hbudget

end Server
end RealtimeGameServer.Source
