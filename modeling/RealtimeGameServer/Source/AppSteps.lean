import RealtimeGameServer.Source.AppContainer
import RealtimeGameServer.Source.LobbyAlone
import RealtimeGameServer.Source.SessionStep

/-!
# What a step of the container preserves

A step runs one handler to its end, and while it runs, the handler is the only one
in flight and its socket stays registered. `GatewayRule` is the rule that follows:
a property of the gateway that survives the few changes a stretch can make, with
the room that is looked up read from the tables, survives the step. The other half
is about the manager: which objects and rooms belong together (`Keyed`).
-/
namespace RealtimeGameServer.Source
open Lib Rooms

/-- The socket whose frame a handler is about. -/
def Handler.frameSocket : Handler → Option SocketId
  | .message socket _ => some socket
  | .connection socket (.early _ _) => some socket
  | _ => none

/-- A handler that is about a frame has a registered socket, and if it looks a room
up, it waits for that room. -/
structure Suspended.Ready {R : Type} (g : Gateway R) (suspended : Suspended) : Prop where
  looksUp : suspended.LooksUp
  registered : ∀ socket, suspended.handler.frameSocket = some socket → socket ∈ g.sockets

namespace Gateway
variable {R : Type}

theorem sockets_of_core {g g' : Gateway R} (h : g'.core = g.core) : g'.sockets = g.sockets := by
  have hsockets := congrArg Gateway.sockets h
  exact hsockets

theorem sessions_of_core {g g' : Gateway R} (h : g'.core = g.core) : g'.sessions = g.sessions := by
  have hsessions := congrArg Gateway.sessions h
  exact hsessions

theorem mem_sockets_of_registered {g : Gateway R} {socket : SocketId} {ctx : SocketContext}
    (h : g.registered socket = some ctx) : socket ∈ g.sockets ∧ g.contexts.get socket = some ctx := by
  unfold registered at h
  split at h
  next hmem => exact ⟨hmem, h⟩
  next => cases h

@[simp] theorem subscribe_sockets (g : Gateway R) (roomId : String) (session : SessionId) :
    (g.subscribe roomId session).sockets = g.sockets := by
  unfold subscribe
  split <;> rfl

@[simp] theorem issueReconnectToken_sockets (g : Gateway R) (now : Int) (uuid : String)
    (socket : SocketId) (ctx : SocketContext) (roomId : String) :
    (g.issueReconnectToken now uuid socket ctx roomId).sockets = g.sockets := by
  unfold issueReconnectToken modifyContext
  dsimp only
  split <;> rfl

variable [Field R] [LinearOrder R] [JsMath R]

omit [LinearOrder R] in
@[simp] theorem enter_sockets (g : Gateway R) (now : Int) (uuid : String) (socket : SocketId)
    (ctx : SocketContext) (roomId : String) :
    (g.enter now uuid socket ctx roomId).sockets = g.sockets := by
  simp only [enter, issueReconnectToken_sockets, subscribe_sockets]

omit [LinearOrder R] in
theorem FrameChanges.sockets {g after : Gateway R} {now : Int} {uuid : String} {socket : SocketId}
    {ctx : SocketContext} {pc : FramePc} {answer : Answer}
    (h : FrameChanges g now uuid socket ctx pc answer after) : after.sockets = g.sockets := by
  cases h with
  | entered => exact enter_sockets g now uuid socket ctx _
  | _ => rfl

omit [JsMath R] in
theorem onMessage_registered {env : Env R} {g : Gateway R} {socket : SocketId} {raw : String}
    {pc : FramePc} {call : ExternalCall} (h : (g.onMessage env socket raw).2 = .awaiting pc call) :
    socket ∈ g.sockets := by
  unfold onMessage at h
  split at h
  next => cases h
  next hregistered => exact (mem_sockets_of_registered hregistered).1

omit [JsMath R] in
theorem drainEarly_registered {env : Env R} {g : Gateway R} {socket : SocketId}
    {messages rest : List String} {pc : FramePc} {call : ExternalCall}
    (h : (g.drainEarly env socket messages).2 = .awaiting (.early rest pc) call) :
    socket ∈ g.sockets := by
  cases messages with
  | nil => cases h
  | cons raw rest =>
    simp only [drainEarly] at h
    split at h <;> rename_i heq <;> cases h
    exact onMessage_registered (congrArg Prod.snd heq)

/-- A connection that handles a buffered frame has its socket registered. -/
theorem resumeConnection_registered {env : Env R} {rt : Runtime R} {g : Gateway R} {now : Int}
    {uuid : String} {socket : SocketId} {wire : Wire} {pc : ConnectionPc} {answer : Answer}
    {result : Gateway R × Outcome ConnectionPc} {rest : List String} {framePc : FramePc}
    {call : ExternalCall}
    (h : g.resumeConnection env rt now uuid socket wire pc answer = some result)
    (hbefore : ∀ rest framePc, pc = .early rest framePc → socket ∈ g.sockets)
    (hout : result.2 = .awaiting (.early rest framePc) call) : socket ∈ result.1.sockets := by
  unfold resumeConnection at h
  split at h
  next =>
    cases h
    cases hout
  next =>
    split at h
    next =>
      cases h
      cases hout
    next =>
      split at h
      next =>
        cases h
        cases hout
      next =>
        cases h
        cases hout
  next =>
    cases h
    cases hout
  next =>
    cases h
    have hmem := drainEarly_registered hout
    rw [sockets_of_core (core_modifyWire g socket _)] at hmem
    rwa [sockets_of_core (startListening_core env g socket wire)]
  next buffered place =>
    obtain ⟨ctx, -, h⟩ := Option.bind_eq_some_iff.mp h
    obtain ⟨⟨after, outcome⟩, hframe, rfl⟩ := Option.map_eq_some_iff.mp h
    have hsockets : after.sockets = g.sockets := (resumeFrame_changes hframe).sockets
    cases outcome with
    | settled => cases hout
    | rejected reason => cases hout
    | awaiting framePc' call' =>
      rw [hsockets]
      exact hbefore buffered place rfl
  next =>
    cases h
    rw [sockets_of_core (drainEarly_core env g socket _)]
    exact drainEarly_registered hout
  next => cases h

end Gateway

namespace Server
variable {R : Type} [Field R] [LinearOrder R] [JsMath R]

/-- A property of the gateway that the stretches of a handler preserve, while the
lobby's answers are read from the tables `db`. -/
structure GatewayRule (env : Env R) (db : LobbyDb) (J : Gateway R → Prop) : Prop where
  core : ∀ g g', g'.core = g.core → J g → J g'
  purged : ∀ g tokens, J g → J { g with reconnectTokens := tokens }
  entered : ∀ g now uuid socket ctx roomId room, J g → socket ∈ g.sockets →
    g.contexts.get socket = some ctx → findById db roomId = some room →
    Gateway.Admits ctx.playerId room → J (g.enter now uuid socket ctx roomId)
  acted : ∀ g socket ctx roomId session op, J g → socket ∈ g.sockets →
    g.contexts.get socket = some ctx → ctx.roomId = some roomId →
    g.sessions.get roomId = some session → Gateway.PlayerOp ctx.playerId op →
    J { g with sessions := g.sessions.modifySession session op }
  registered : ∀ g socket payload, J g → J (g.register socket payload)
  closed : ∀ g socket, J g → J (g.onClose socket).1
  ticked : ∀ g now session object, J g → g.sessions.object session = some object →
    J (g.tick env now session object)

/-- The handler with this number is the only one in flight, if there is one. -/
structure Alone (J : Gateway R → Prop) (number : Nat) (s : Server R) : Prop where
  holds : J s.gateway
  ready : ∀ suspended, s.handlers.get number = some suspended → suspended.Ready s.gateway
  only : ∀ i, i ≠ number → s.handlers.get i = none

/-- Nothing in flight. -/
def Quiet (s : Server R) : Prop := ∀ i, s.handlers.get i = none

variable {env : Env R} {rt : Runtime R} {db : LobbyDb} {J : Gateway R → Prop}

theorem GatewayRule.frameChanges (hrule : GatewayRule env db J) {g after : Gateway R} {now : Int}
    {uuid : String} {socket : SocketId} {ctx : SocketContext} {pc : FramePc} {call : ExternalCall}
    {reply : CallReply} (hJ : J g) (hsocket : socket ∈ g.sockets)
    (hctx : g.contexts.get socket = some ctx) (hlooksUp : pc.LooksUp call)
    (h : Gateway.FrameChanges g now uuid socket ctx pc (reply.answer db call) after.core) :
    J after := by
  generalize hcore : after.core = core at h
  cases h with
  | quiet => exact hrule.core g after hcore hJ
  | @purged tokens => exact hrule.core _ after hcore (hrule.purged g tokens hJ)
  | @entered roomId room place found admits =>
    -- the answer to the lookup is the room's row
    subst place
    cases hlooksUp
    have hroom : findById db roomId = some room := by
      unfold CallReply.answer at found
      split at found
      next => cases found
      next => exact Answer.room.inj found
    exact hrule.core _ after hcore (hrule.entered g _ _ _ _ _ _ hJ hsocket hctx hroom admits)
  | @acted roomId session op joined current own =>
    exact hrule.core _ after hcore (hrule.acted g _ _ _ _ _ hJ hsocket hctx joined current own)

omit [Field R] [LinearOrder R] [JsMath R] in
theorem handlers_conclude {Pc : Type} (s : Server R) (number : Nat) (origin : Handler)
    (resume : Pc → Handler) (result : Gateway R × Outcome Pc) (i : Nat) :
    (s.conclude number origin resume result).handlers.get i =
      if i = number then
        match result.2 with
        | .awaiting pc call => some ⟨resume pc, call⟩
        | _ => none
      else s.handlers.get i := by
  obtain ⟨g, outcome⟩ := result
  cases outcome with
  | awaiting pc call => exact JsMap.get_set _ _ _ _
  | _ => exact JsMap.get_delete _ _ _

omit [Field R] [LinearOrder R] [JsMath R] in
theorem gateway_conclude {Pc : Type} (s : Server R) (number : Nat) (origin : Handler)
    (resume : Pc → Handler) (result : Gateway R × Outcome Pc) :
    (s.conclude number origin resume result).gateway = result.1 := by
  obtain ⟨g, outcome⟩ := result
  cases outcome <;> rfl

omit [Field R] [LinearOrder R] [JsMath R] in
/-- The state after a stretch of the one handler in flight. -/
theorem alone_conclude {Pc : Type} {s : Server R} {number : Nat} {origin : Handler}
    {resume : Pc → Handler} {result : Gateway R × Outcome Pc}
    (honly : ∀ i, i ≠ number → s.handlers.get i = none) (hJ : J result.1)
    (hready : ∀ pc call, result.2 = .awaiting pc call →
      Suspended.Ready result.1 ⟨resume pc, call⟩) :
    Alone J number (s.conclude number origin resume result) := by
  constructor
  case holds =>
    rw [gateway_conclude]
    exact hJ
  case ready =>
    intro suspended hget
    rw [handlers_conclude, if_pos rfl] at hget
    rw [gateway_conclude]
    split at hget
    next hout =>
      cases hget
      exact hready _ _ hout
    next => cases hget
  case only =>
    intro i hne
    rw [handlers_conclude, if_neg hne]
    exact honly i hne

/-- One stretch. -/
theorem GatewayRule.resume (hrule : GatewayRule env db J) {s t : Server R} {number : Nat}
    {suspended : Suspended} {reply : CallReply} (h : Alone J number s)
    (hget : s.handlers.get number = some suspended)
    (hstep : s.resume env rt number reply.now reply.uuid (reply.answer db suspended.call) = some t) :
    Alone J number t := by
  obtain ⟨hlooksUp, hregistered⟩ := h.ready suspended hget
  obtain ⟨handler, call⟩ := suspended
  cases handler with
  | message socket pc =>
    simp only [Server.resume, hget] at hstep
    obtain ⟨ctx, hctx, hstep⟩ := Option.bind_eq_some_iff.mp hstep
    obtain ⟨result, hframe, rfl⟩ := Option.map_eq_some_iff.mp hstep
    have hsocket := hregistered socket rfl
    have hchanges := Gateway.resumeFrame_changes hframe
    refine alone_conclude h.only
      (hrule.frameChanges h.holds hsocket hctx hlooksUp hchanges) ?_
    intro pc' call' hout
    constructor
    case looksUp =>
      obtain ⟨after, outcome⟩ := result
      cases hout
      exact Gateway.resumeFrame_looksUp hframe
    case registered =>
      rintro socket' hsame
      cases hsame
      have hsockets : result.1.sockets = s.gateway.sockets := hchanges.sockets
      rw [hsockets]
      exact hsocket
  | connection socket pc =>
    simp only [Server.resume, hget] at hstep
    obtain ⟨wire, -, hstep⟩ := Option.bind_eq_some_iff.mp hstep
    obtain ⟨result, hconnection, rfl⟩ := Option.map_eq_some_iff.mp hstep
    have hafter : J result.1 := by
      have hchanges := Gateway.resumeConnection_changes hconnection
      generalize hcore : result.1.core = core at hchanges
      cases hchanges with
      | quiet => exact hrule.core _ _ hcore h.holds
      | @registered payload => exact hrule.core _ _ hcore (hrule.registered _ socket payload h.holds)
      | @frame rest framePc ctx _ place hctx changes =>
        subst place
        rw [← hcore] at changes
        exact hrule.frameChanges h.holds (hregistered socket rfl) hctx hlooksUp changes
    refine alone_conclude h.only hafter ?_
    intro pc' call' hout
    constructor
    case looksUp => exact Gateway.resumeConnection_looksUp hconnection hout
    case registered =>
      intro socket' hsame
      cases pc' with
      | early rest framePc =>
        cases hsame
        refine Gateway.resumeConnection_registered hconnection ?_ hout
        rintro buffered place rfl
        exact hregistered socket rfl
      | _ => cases hsame
  | close socket =>
    simp only [Server.resume, hget] at hstep
    split at hstep <;> cases hstep
    all_goals exact alone_conclude h.only h.holds fun _ _ hout => by cases hout

/-- A handler that has run to its end is gone. -/
theorem settle_done {number : Nat} {replies : List CallReply} {s t : Server R}
    (h : s.settle env rt db number replies = some t) : t.handlers.get number = none := by
  induction replies generalizing s with
  | nil =>
    simp only [settle] at h
    split at h <;> cases h
    next hhas => exact Option.not_isSome_iff_eq_none.mp hhas
  | cons reply rest ih =>
    obtain ⟨suspended, -, h⟩ := Option.bind_eq_some_iff.mp h
    obtain ⟨u, -, hrest⟩ := Option.bind_eq_some_iff.mp h
    exact ih hrest

theorem GatewayRule.settle (hrule : GatewayRule env db J) {number : Nat}
    {replies : List CallReply} {s t : Server R} (h : Alone J number s)
    (hsettle : s.settle env rt db number replies = some t) : J t.gateway ∧ Quiet t := by
  have halone : Alone J number t :=
    settle_rule (fun _ _ _ _ hI hget hstep => hrule.resume hI hget hstep) h hsettle
  refine ⟨halone.holds, fun i => ?_⟩
  by_cases hi : i = number
  · rw [hi]
    exact settle_done hsettle
  · exact halone.only i hi

theorem GatewayRule.connect (hrule : GatewayRule env db J) {s t : Server R} {socket : SocketId}
    {request : Request} (hquiet : Quiet s) (hJ : J s.gateway)
    (h : s.connect env socket request = some t) : Alone J s.started t := by
  unfold Server.connect at h
  split at h <;> cases h
  refine alone_conclude (fun i _ => hquiet i) (hrule.core s.gateway _ rfl hJ) ?_
  intro pc call hout
  cases hout
  exact ⟨trivial, fun _ hsocket => by cases hsocket⟩

theorem GatewayRule.frame (hrule : GatewayRule env db J) {s t : Server R} {socket : SocketId}
    {raw : String} (hquiet : Quiet s) (hJ : J s.gateway)
    (h : s.frame env socket raw = some t) : Alone J s.started t := by
  have hidle : ∀ g, J g → Alone J s.started { s with gateway := g } := by
    intro g hg
    refine ⟨hg, fun suspended hget => ?_, fun i _ => hquiet i⟩
    cases (hquiet s.started).symm.trans hget
  unfold Server.frame at h
  split at h
  next => cases h
  next =>
    split at h
    next => cases h
    next =>
      split at h <;> cases h
      next => exact hidle _ (hrule.core s.gateway _ (Gateway.core_modifyWire _ _ _) hJ)
      next =>
        refine alone_conclude (fun i _ => hquiet i)
          (hrule.core s.gateway _ (Gateway.onMessage_core env _ _ _) hJ) ?_
        intro pc call hout
        refine ⟨Gateway.onMessage_looksUp hout, fun socket' hsame => ?_⟩
        cases hsame
        rw [Gateway.sockets_of_core (Gateway.onMessage_core env _ _ _)]
        exact Gateway.onMessage_registered hout
      next => exact hidle _ hJ

theorem GatewayRule.close (hrule : GatewayRule env db J) {s t : Server R} {socket : SocketId}
    (hquiet : Quiet s) (hJ : J s.gateway) (h : s.close socket = some t) :
    Alone J s.started t := by
  unfold Server.close at h
  split at h
  next => cases h
  next =>
    split at h
    next => cases h
    next =>
      have hwire : J (s.gateway.modifyWire socket fun wire => { wire with readyState := .closed }) :=
        hrule.core s.gateway _ (Gateway.core_modifyWire _ _ _) hJ
      dsimp only at h
      split at h <;> cases h
      next =>
        refine alone_conclude (fun i _ => hquiet i) (hrule.closed _ socket hwire) ?_
        intro pc call _
        exact ⟨trivial, fun _ hsocket => by cases hsocket⟩
      next =>
        refine ⟨hwire, fun suspended hget => ?_, fun i _ => hquiet i⟩
        cases (hquiet s.started).symm.trans hget

end Server

/-- The container's steps beside the lobby routes leave the tables as they are,
preserve what their stretches preserve, and end with nothing in flight. -/
theorem AppContainer.gateway_step {R : Type} [Field R] [LinearOrder R] [JsMath R] {env : Env R}
    {rt : Runtime R} {maxPlayersPerRoom : Nat} {J : Gateway R → Prop} {s t : AppContainer R}
    {event : AppEvent} (hrule : Server.GatewayRule env s.lobby J) (hquiet : s.wsGateway.Quiet)
    (hJ : J s.wsGateway.gateway) (hroute : ∀ call draws now, event ≠ .route call draws now)
    (h : s.step env rt maxPlayersPerRoom event = some t) :
    t.lobby = s.lobby ∧ J t.wsGateway.gateway ∧ t.wsGateway.Quiet := by
  cases event with
  | route call draws now => exact absurd rfl (hroute call draws now)
  | connect socket request replies =>
    obtain ⟨server, hserver, rfl⟩ := Option.map_eq_some_iff.mp h
    obtain ⟨opened, hopened, hsettle⟩ := Option.bind_eq_some_iff.mp hserver
    exact ⟨rfl, hrule.settle (hrule.connect hquiet hJ hopened) hsettle⟩
  | frame socket raw replies =>
    obtain ⟨server, hserver, rfl⟩ := Option.map_eq_some_iff.mp h
    obtain ⟨opened, hopened, hsettle⟩ := Option.bind_eq_some_iff.mp hserver
    exact ⟨rfl, hrule.settle (hrule.frame hquiet hJ hopened) hsettle⟩
  | close socket replies =>
    obtain ⟨server, hserver, rfl⟩ := Option.map_eq_some_iff.mp h
    obtain ⟨opened, hopened, hsettle⟩ := Option.bind_eq_some_iff.mp hserver
    exact ⟨rfl, hrule.settle (hrule.close hquiet hJ hopened) hsettle⟩
  | tick session now =>
    obtain ⟨server, hserver, rfl⟩ := Option.map_eq_some_iff.mp h
    unfold Server.tick at hserver
    split at hserver
    next => cases hserver
    next object hobject =>
      split at hserver <;> cases hserver
      exact ⟨rfl, hrule.ticked _ now session object hJ hobject, hquiet⟩

namespace GameSessionManager
variable {R : Type}

/-- While no session is destroyed: a room's object is the only one for it, and it
sends its snapshots to its own room. -/
structure Keyed (m : GameSessionManager R) : Prop where
  object : ∀ roomId id, m.get roomId = some id →
    ∃ o, m.object id = some o ∧ o.session.roomId = roomId
  get : ∀ id o, m.object id = some o → m.get o.session.roomId = some id
  subscribers : ∀ id o roomId, m.object id = some o → roomId ∈ o.subscribers →
    roomId = o.session.roomId

theorem keyed_empty : Keyed (empty : GameSessionManager R) := by
  constructor
  case object =>
    intro roomId id hget
    cases hget
  case get =>
    intro id o ho
    cases ho
  case subscribers =>
    intro id o roomId ho
    cases ho

/-- All sessions have the property. -/
def Each (P : GameSession R → Prop) (m : GameSessionManager R) : Prop :=
  ∀ id o, m.object id = some o → P o.session

/-- An object after one of them has been modified. -/
theorem object_modify_cases {m : GameSessionManager R} {id j : SessionId}
    {f : SessionObject R → SessionObject R} {o : SessionObject R}
    (h : (m.modify id f).object j = some o) :
    (j = id ∧ ∃ old, m.object id = some old ∧ o = f old) ∨ m.object j = some o := by
  rw [object_modify] at h
  split at h
  next heq =>
    subst heq
    obtain ⟨old, hold, rfl⟩ := Option.map_eq_some_iff.mp h
    exact Or.inl ⟨rfl, old, hold, rfl⟩
  next => exact Or.inr h

theorem Keyed.modify {m : GameSessionManager R} (h : Keyed m) {id : SessionId}
    {f : SessionObject R → SessionObject R}
    (hroom : ∀ o, (f o).session.roomId = o.session.roomId)
    (hsubscribers : ∀ o roomId, m.object id = some o → roomId ∈ (f o).subscribers →
      roomId ∈ o.subscribers ∨ roomId = o.session.roomId) : Keyed (m.modify id f) := by
  constructor
  case object =>
    intro roomId i hget
    obtain ⟨o, ho, hsame⟩ := h.object roomId i hget
    rw [object_modify, ho]
    split
    next => exact ⟨f o, rfl, (hroom o).trans hsame⟩
    next => exact ⟨o, rfl, hsame⟩
  case get =>
    intro i o ho
    rcases object_modify_cases ho with ⟨rfl, old, hold, rfl⟩ | hold
    · rw [hroom]
      exact h.get i old hold
    · exact h.get i o hold
  case subscribers =>
    intro i o roomId ho hmem
    rcases object_modify_cases ho with ⟨rfl, old, hold, rfl⟩ | hold
    · rw [hroom]
      rcases hsubscribers old roomId hold hmem with hsub | hsame
      · exact h.subscribers i old roomId hold hsub
      · exact hsame
    · exact h.subscribers i o roomId hold hmem

theorem Keyed.modifySession {m : GameSessionManager R} (h : Keyed m) {id : SessionId}
    {f : GameSession R → GameSession R} (hroom : ∀ s, (f s).roomId = s.roomId) :
    Keyed (m.modifySession id f) :=
  Keyed.modify h (fun o => hroom o.session) fun _ _ _ hmem => Or.inl hmem

theorem Each.modify {P : GameSession R → Prop} {m : GameSessionManager R} (h : Each P m)
    {id : SessionId} {f : SessionObject R → SessionObject R}
    (hkeep : ∀ o, m.object id = some o → P o.session → P (f o).session) :
    Each P (m.modify id f) := by
  intro i o ho
  rcases object_modify_cases ho with ⟨-, old, hold, rfl⟩ | hold
  · exact hkeep old hold (h id old hold)
  · exact h i o hold

theorem Keyed.getOrCreate {m : GameSessionManager R} (h : Keyed m) (roomId : String) :
    Keyed (m.getOrCreate roomId).1 := by
  cases hget : m.get roomId with
  | some id =>
    rw [getOrCreate_of_some hget]
    exact h
  | none =>
    have hid : (m.getOrCreate roomId).2 = m.objects.length := by
      unfold GameSessionManager.getOrCreate
      rw [show m.sessions.get roomId = none from hget]
    have hobject : ∀ i o, (m.getOrCreate roomId).1.object i = some o →
        (i = m.objects.length ∧ o = ⟨GameSession.create roomId, true, []⟩) ∨
          m.object i = some o := by
      intro i o ho
      rw [object_getOrCreate] at ho
      split at ho
      next heq =>
        cases ho
        exact Or.inl ⟨heq.2, rfl⟩
      next => exact Or.inr ho
    constructor
    case object =>
      intro j i hj
      rw [get_getOrCreate] at hj
      split at hj
      next heq =>
        cases hj
        refine ⟨⟨GameSession.create roomId, true, []⟩, ?_, heq.symm⟩
        rw [object_getOrCreate, if_pos ⟨hget, hid⟩]
      next =>
        obtain ⟨o, ho, hroom⟩ := h.object j i hj
        have hold : i < m.objects.length := (List.getElem?_eq_some_iff.mp ho).1
        refine ⟨o, ?_, hroom⟩
        rw [object_getOrCreate, if_neg fun heq => Nat.ne_of_lt hold heq.2]
        exact ho
    case get =>
      intro i o ho
      rw [get_getOrCreate]
      rcases hobject i o ho with ⟨rfl, rfl⟩ | hold
      · exact (if_pos rfl).trans (congrArg some hid)
      · have hsome := h.get i o hold
        have hne : o.session.roomId ≠ roomId := by
          intro heq
          rw [heq, hget] at hsome
          cases hsome
        rw [if_neg hne]
        exact hsome
    case subscribers =>
      intro i o j ho hmem
      rcases hobject i o ho with ⟨rfl, rfl⟩ | hold
      · cases hmem
      · exact h.subscribers i o j hold hmem

theorem Each.getOrCreate {P : GameSession R → Prop} {m : GameSessionManager R} (h : Each P m)
    {roomId : String} (hnew : P (GameSession.create roomId)) :
    Each P (m.getOrCreate roomId).1 := by
  intro i o ho
  rw [object_getOrCreate] at ho
  split at ho
  next =>
    cases ho
    exact hnew
  next => exact h i o ho

end GameSessionManager

namespace Gateway
variable {R : Type} [Field R] [LinearOrder R] [JsMath R]
open GameSessionManager

omit [Field R] [LinearOrder R] [JsMath R] in
theorem PlayerOp.roomId {playerId : String} {op : GameSession R → GameSession R}
    (h : PlayerOp playerId op) (s : GameSession R) : (op s).roomId = s.roomId := by
  cases h with
  | input input => exact GameSession.enqueueInput_roomId s playerId input
  | assign assign => exact GameSession.withPlayer_roomId s playerId assign

omit [Field R] [LinearOrder R] [JsMath R] in
theorem issueReconnectToken_sessions (g : Gateway R) (now : Int) (uuid : String)
    (socket : SocketId) (ctx : SocketContext) (roomId : String) :
    (g.issueReconnectToken now uuid socket ctx roomId).sessions = g.sessions := by
  unfold issueReconnectToken modifyContext
  dsimp only
  split <;> rfl

/-- The room a member enters has its session, with the player added. -/
def entering (g : Gateway R) (now : Int) (ctx : SocketContext) (roomId : String) :
    GameSessionManager R :=
  (g.sessions.getOrCreate roomId).1.modifySession (g.sessions.getOrCreate roomId).2 fun s =>
    s.addPlayer now ctx.playerId ctx.username

omit [LinearOrder R] in
/-- The sessions after an entry: at most a subscription is added to them. -/
theorem enter_sessions (g : Gateway R) (now : Int) (uuid : String) (socket : SocketId)
    (ctx : SocketContext) (roomId : String) :
    (g.enter now uuid socket ctx roomId).sessions = g.entering now ctx roomId ∨
    (g.enter now uuid socket ctx roomId).sessions =
      (g.entering now ctx roomId).modify (g.sessions.getOrCreate roomId).2 fun o =>
        { o with subscribers := o.subscribers ++ [roomId] } := by
  simp only [enter, issueReconnectToken_sessions, subscribe]
  split
  next => exact Or.inl rfl
  next => exact Or.inr rfl

omit [LinearOrder R] in
theorem get_enter (g : Gateway R) (now : Int) (uuid : String) (socket : SocketId)
    (ctx : SocketContext) (roomId i : String) :
    (g.enter now uuid socket ctx roomId).sessions.get i =
      (g.sessions.getOrCreate roomId).1.get i := by
  rcases enter_sessions g now uuid socket ctx roomId with heq | heq <;> rw [heq] <;> rfl

omit [LinearOrder R] in
theorem keyed_enter {g : Gateway R} (h : Keyed g.sessions) (now : Int) (uuid : String)
    (socket : SocketId) (ctx : SocketContext) (roomId : String) :
    Keyed (g.enter now uuid socket ctx roomId).sessions := by
  have hcreated := h.getOrCreate roomId
  have hentering : Keyed (g.entering now ctx roomId) :=
    hcreated.modifySession fun s => GameSession.addPlayer_roomId s now _ _
  rcases enter_sessions g now uuid socket ctx roomId with heq | heq
  · rw [heq]
    exact hentering
  · rw [heq]
    refine hentering.modify (fun _ => rfl) fun o j ho hmem => ?_
    rcases List.mem_append.mp hmem with hold | hnew
    · exact Or.inl hold
    · -- the object subscribed for the room is the object of the room
      have hget : (g.entering now ctx roomId).get roomId =
          some (g.sessions.getOrCreate roomId).2 :=
        (get_getOrCreate g.sessions roomId roomId).trans (if_pos rfl)
      obtain ⟨o', ho', hroom⟩ := hentering.object roomId _ hget
      cases ho.symm.trans ho'
      exact Or.inr ((List.mem_singleton.mp hnew).trans hroom.symm)

omit [LinearOrder R] in
theorem each_enter {P : GameSession R → Prop} {g : Gateway R} (h : Each P g.sessions) (now : Int)
    (uuid : String) (socket : SocketId) (ctx : SocketContext) {roomId : String}
    (hnew : P (GameSession.create roomId))
    (hadd : ∀ s, P s → P (s.addPlayer now ctx.playerId ctx.username)) :
    Each P (g.enter now uuid socket ctx roomId).sessions := by
  have hentering : Each P (g.entering now ctx roomId) :=
    (h.getOrCreate hnew).modify fun o _ ho => hadd o.session ho
  rcases enter_sessions g now uuid socket ctx roomId with heq | heq
  · rw [heq]
    exact hentering
  · rw [heq]
    exact hentering.modify fun _ _ ho => ho

omit [Field R] [LinearOrder R] [JsMath R] in
theorem get_modifyContext (g : Gateway R) (socket : SocketId) (f : SocketContext → SocketContext)
    (i : SocketId) : (g.modifyContext socket f).contexts.get i =
      if i = socket then (g.contexts.get i).map f else g.contexts.get i := by
  unfold modifyContext
  split
  next h =>
    split
    next hi => rw [hi, h]; rfl
    next => rfl
  next ctx h =>
    rw [JsMap.get_set]
    split
    next hi => rw [hi, h]; rfl
    next => rfl

omit [LinearOrder R] in
/-- An entry changes the context object of its socket. -/
theorem contexts_enter (g : Gateway R) (now : Int) (uuid : String) (socket : SocketId)
    (ctx : SocketContext) (roomId : String) (i : SocketId) :
    (g.enter now uuid socket ctx roomId).contexts.get i =
      if i = socket then (g.contexts.get i).map fun ctx =>
        { ctx with roomId := some roomId, reconnectToken := some uuid }
      else g.contexts.get i := by
  have hsubscribe : ∀ (g : Gateway R) session, (g.subscribe roomId session).contexts = g.contexts := by
    intro g session
    unfold subscribe
    split <;> rfl
  have hissue : ∀ g : Gateway R, (g.issueReconnectToken now uuid socket ctx roomId).contexts.get i =
      if i = socket then (g.contexts.get i).map fun ctx =>
        { ctx with roomId := some roomId, reconnectToken := some uuid }
      else g.contexts.get i := by
    intro g
    unfold issueReconnectToken
    exact get_modifyContext _ _ _ _
  unfold enter
  rw [hissue, hsubscribe]

omit [Field R] [LinearOrder R] [JsMath R] in
theorem replaceExistingSocket_sessions (g : Gateway R) (playerId : String) :
    (g.replaceExistingSocket playerId).sessions = g.sessions := by
  unfold replaceExistingSocket
  split
  next => rfl
  next existing _ =>
    have hclose := sessions_of_core (core_closeSocket g existing)
    exact hclose

omit [Field R] [LinearOrder R] [JsMath R] in
theorem register_sessions (g : Gateway R) (socket : SocketId) (payload : AccessTokenPayload) :
    (g.register socket payload).sessions = g.sessions :=
  replaceExistingSocket_sessions g payload.playerId

omit [Field R] [LinearOrder R] [JsMath R] in
theorem mem_sockets_replaceExistingSocket {g : Gateway R} {playerId : String} {i : SocketId}
    (h : i ∈ (g.replaceExistingSocket playerId).sockets) : i ∈ g.sockets := by
  unfold replaceExistingSocket at h
  split at h
  next => exact h
  next existing _ =>
    rw [← sockets_of_core (core_closeSocket g existing)]
    exact (List.mem_filter.mp h).1

/-- A tick changes its session and nothing else. -/
theorem tick_core (env : Env R) (g : Gateway R) (now : Int) (session : SessionId)
    (object : SessionObject R) : (g.tick env now session object).core =
      { g.core with sessions := g.sessions.modifySession session fun _ =>
          (object.session.step env now).session } := by
  unfold tick
  refine (core_foldl _ (fun g event => ?_) _ _).trans rfl
  cases event with
  | snapshot message => exact core_foldl _ (fun g roomId => core_broadcast g _ _) _ _
  | playerDisconnected id => rfl

omit [Field R] [LinearOrder R] [JsMath R] in
/-- A close unregisters its socket and touches at most its player in one session. -/
theorem onClose_core (g : Gateway R) (socket : SocketId) :
    ∃ byPlayer sessions, (g.onClose socket).1.core =
      { g.core with
        sockets := g.sockets.filter (· ≠ socket)
        socketsByPlayer := byPlayer
        sessions } ∧
    (sessions = g.sessions ∨ ∃ session playerId assign,
      sessions = g.sessions.modifySession session fun s => s.withPlayer playerId assign) := by
  unfold onClose
  split
  next => exact ⟨g.socketsByPlayer, g.sessions, rfl, Or.inl rfl⟩
  next ctx _ =>
    dsimp only
    split <;> split
    all_goals refine ⟨_, _, rfl, ?_⟩
    · exact Or.inl rfl
    · exact Or.inl rfl
    · exact Or.inr ⟨_, ctx.playerId, _, rfl⟩
    · exact Or.inr ⟨_, ctx.playerId, _, rfl⟩

end Gateway

namespace AppContainer
variable {R : Type} [Field R] [JsMath R]
open GameSessionManager

/-- The start route creates the room's session and adds its members. -/
theorem get_startRoute (m : GameSessionManager R) (now : Int) (room : RoomEntity) (i : String) :
    (startRoute m now room).get i = (m.getOrCreate room.id).1.get i := by
  unfold startRoute
  refine List.foldlRecOn
    (motive := fun after : GameSessionManager R => after.get i = (m.getOrCreate room.id).1.get i)
    _ _ rfl fun after hafter member _ => ?_
  split
  next => exact hafter
  next => exact hafter

/-- What the entry of one player preserves, the start route preserves. -/
theorem startRoute_rule {I : GameSessionManager R → Prop} {m : GameSessionManager R} {now : Int}
    {room : RoomEntity} (hcreated : I (m.getOrCreate room.id).1)
    (hadd : ∀ m session playerId username, I m →
      I (m.modifySession session fun s => s.addPlayer now playerId username)) :
    I (startRoute m now room) := by
  unfold startRoute
  refine List.foldlRecOn (motive := I) _ _ hcreated fun after hafter member _ => ?_
  split
  next => exact hafter
  next => exact hadd after _ _ _ hafter

end AppContainer
end RealtimeGameServer.Source
