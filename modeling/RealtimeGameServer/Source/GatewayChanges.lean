import RealtimeGameServer.Source.GatewaySteps

/-!
# What the stretches of the gateway change besides what they send

A stretch changes the context objects, the registered sockets, the tokens and the
sessions in few ways: `FrameChanges` lists them for a frame, `ConnectionChanges`
for a connection. Wires and messages are left out of `core`, so most stretches
leave it as it is. The rest of the module says which call a handler waits for
while it looks its room up.
-/
namespace RealtimeGameServer.Source
open Lib

namespace Gateway
variable {R : Type}

/-- The gateway without its wires and what they have been sent. -/
def core (g : Gateway R) : Gateway R := { g with wires := JsMap.empty, sent := [] }

@[simp] theorem core_modifyWire (g : Gateway R) (socket : SocketId) (f : Wire → Wire) :
    (g.modifyWire socket f).core = g.core := by
  unfold modifyWire
  split <;> rfl

@[simp] theorem core_closeSocket (g : Gateway R) (socket : SocketId) :
    (g.closeSocket socket).core = g.core := core_modifyWire g socket _

@[simp] theorem core_offEarly (g : Gateway R) (socket : SocketId) :
    (g.offEarly socket).core = g.core := core_modifyWire g socket _

@[simp] theorem core_send (g : Gateway R) (socket : SocketId) (message : ServerMessage R) :
    (g.send socket message).core = g.core := by
  unfold send
  split <;> rfl

@[simp] theorem core_sendError (g : Gateway R) (socket : SocketId) (code message : String) :
    (g.sendError socket code message).core = g.core := core_send g socket _

@[simp] theorem core_refuseConnection (g : Gateway R) (socket : SocketId) :
    (g.refuseConnection socket).core = g.core := by
  simp only [refuseConnection, core_closeSocket, core_sendError, core_offEarly]

theorem core_foldl {α : Type} (f : Gateway R → α → Gateway R)
    (h : ∀ g a, (f g a).core = g.core) (l : List α) (g : Gateway R) :
    (l.foldl f g).core = g.core := by
  induction l generalizing g with
  | nil => rfl
  | cons a rest ih => rw [List.foldl_cons, ih, h]

@[simp] theorem core_broadcast (g : Gateway R) (roomId : String) (message : ServerMessage R) :
    (g.broadcast roomId message).core = g.core := by
  refine core_foldl _ (fun g socket => ?_) _ _
  split
  next => rfl
  next => split <;> simp

/-- What a dispatched frame does to the session of its player. -/
inductive PlayerOp (playerId : String) : (GameSession R → GameSession R) → Prop
  | input (input : MovementInput R) :
      PlayerOp playerId fun s => (s.enqueueInput playerId input).1
  | assign (assign : RuntimePlayerState R → RuntimePlayerState R) :
      PlayerOp playerId fun s => s.withPlayer playerId assign

/-- Whether the lobby's answer lets a player in. -/
def Admits (playerId : String) (room : RoomEntity) : Prop :=
  room.members.any (fun member => member.playerId = playerId) ∧ room.status ≠ .closed

variable [Field R] [LinearOrder R] [JsMath R]

/-- What `joinSession` does for a member of an open room, up to the presence call. -/
def enter (g : Gateway R) (now : Int) (uuid : String) (socket : SocketId) (ctx : SocketContext)
    (roomId : String) : Gateway R :=
  let (sessions, session) := g.sessions.getOrCreate roomId
  let g := { g with
    sessions := sessions.modifySession session fun s =>
      s.addPlayer now ctx.playerId ctx.username }
  (g.subscribe roomId session).issueReconnectToken now uuid socket ctx roomId

/-- Everything a stretch of `onMessage` can change. -/
inductive FrameChanges (g : Gateway R) (now : Int) (uuid : String) (socket : SocketId)
    (ctx : SocketContext) (pc : FramePc) (answer : Answer) : Gateway R → Prop
  | quiet : FrameChanges g now uuid socket ctx pc answer g.core
  | purged {tokens : JsMap String ReconnectEntry} :
      FrameChanges g now uuid socket ctx pc answer { g.core with reconnectTokens := tokens }
  | entered {roomId : String} {room : RoomEntity} (place : pc = .roomLookup roomId)
      (found : answer = .room (some room)) (admits : Admits ctx.playerId room) :
      FrameChanges g now uuid socket ctx pc answer (g.enter now uuid socket ctx roomId).core
  | acted {roomId : String} {session : SessionId} {op : GameSession R → GameSession R}
      (joined : ctx.roomId = some roomId) (current : g.sessions.get roomId = some session)
      (own : PlayerOp ctx.playerId op) :
      FrameChanges g now uuid socket ctx pc answer
        { g.core with sessions := g.sessions.modifySession session op }

omit [LinearOrder R] in
/-- The lobby's answer either lets the player in or changes nothing. -/
theorem joinSessionRoom_core (g : Gateway R) (now : Int) (uuid : String) (socket : SocketId)
    (ctx : SocketContext) (roomId : String) (found : Option RoomEntity) :
    (∃ room, found = some room ∧ Admits ctx.playerId room ∧
      (g.joinSessionRoom now uuid socket ctx roomId found).1.core =
        (g.enter now uuid socket ctx roomId).core) ∨
    (g.joinSessionRoom now uuid socket ctx roomId found).1.core = g.core := by
  cases found with
  | none => exact Or.inr rfl
  | some room =>
    simp only [joinSessionRoom, getRoom]
    split
    next => exact Or.inr (core_sendError _ _ _ _)
    next hmember =>
      split
      next => exact Or.inr (core_sendError _ _ _ _)
      next hstatus =>
        refine Or.inl ⟨room, rfl, ⟨Classical.not_not.mp hmember, ?_⟩, rfl⟩
        intro hclosed
        rw [hclosed] at hstatus
        exact hstatus ⟨by decide, by decide⟩

omit [Field R] [LinearOrder R] [JsMath R] in
theorem currentSession_eq_some {g : Gateway R} {ctx : SocketContext} {session : SessionId}
    (h : g.currentSession ctx = some session) :
    ∃ roomId, ctx.roomId = some roomId ∧ g.sessions.get roomId = some session :=
  Option.bind_eq_some_iff.mp h

theorem dispatch_changes (g : Gateway R) (now : Int) (uuid : String) (socket : SocketId)
    (ctx : SocketContext) (pc : FramePc) (answer : Answer) (message : ClientMessage R) :
    FrameChanges g now uuid socket ctx pc answer (g.dispatch now socket ctx message).1.core := by
  cases message with
  | joinSession roomId token =>
    simp only [dispatch, joinSession]
    split
    next => exact .purged
    next =>
      split
      next =>
        rw [core_sendError]
        exact .purged
      next => exact .purged
  | input input =>
    simp only [dispatch, dispatchInput]
    split
    next =>
      rw [core_sendError]
      exact .quiet
    next =>
      split
      next => exact .quiet
      next session hsession =>
        obtain ⟨roomId, hroom, hget⟩ := currentSession_eq_some hsession
        split
        next => exact .quiet
        next object hobject =>
          have hmodify := GameSessionManager.modifySession_of_object hobject
            fun s => (s.enqueueInput ctx.playerId input).1
          have hacted : FrameChanges g now uuid socket ctx pc answer { g.core with
              sessions := g.sessions.modifySession session fun s =>
                (s.enqueueInput ctx.playerId input).1 } := .acted hroom hget (.input input)
          rw [← hmodify] at hacted
          split
          next =>
            rw [core_send]
            exact hacted
          next => exact hacted
  | ping clientTime =>
    simp only [dispatch, dispatchPing, core_send]
    split
    next => exact .quiet
    next session hsession =>
      obtain ⟨roomId, hroom, hget⟩ := currentSession_eq_some hsession
      exact .acted hroom hget (.assign _)
  | heartbeat =>
    simp only [dispatch, dispatchHeartbeat]
    split
    next => exact .quiet
    next session hsession =>
      obtain ⟨roomId, hroom, hget⟩ := currentSession_eq_some hsession
      exact .acted hroom hget (.assign _)
  | requestSnapshot =>
    simp only [dispatch, dispatchSnapshot]
    split
    next => exact .quiet
    next =>
      split
      next => exact .quiet
      next =>
        rw [core_send]
        exact .quiet

omit [JsMath R] in
theorem onMessage_core (env : Env R) (g : Gateway R) (socket : SocketId) (raw : String) :
    (g.onMessage env socket raw).1.core = g.core := by
  unfold onMessage
  split
  next => rfl
  next =>
    split
    next => exact core_sendError _ _ _ _
    next => rfl

theorem resumeFrame_changes {rt : Runtime R} {g : Gateway R} {now : Int} {uuid : String}
    {socket : SocketId} {ctx : SocketContext} {pc : FramePc} {answer : Answer}
    {result : Gateway R × Outcome FramePc}
    (h : g.resumeFrame rt now uuid socket ctx pc answer = some result) :
    FrameChanges g now uuid socket ctx pc answer result.1.core := by
  unfold resumeFrame at h
  split at h
  next =>
    cases h
    exact .quiet
  next raw allowed =>
    cases h
    unfold onMessageLimited
    repeat' split
    all_goals first
      | exact dispatch_changes _ _ _ _ _ _ _ _
      | (rw [core_sendError]; exact .quiet)
  next roomId found =>
    cases h
    rcases joinSessionRoom_core g now uuid socket ctx roomId found with
      ⟨room, hfound, hadmits, hcore⟩ | hcore
    · rw [hcore]
      exact .entered rfl (congrArg Answer.room hfound) hadmits
    · rw [hcore]
      exact .quiet
  next =>
    cases h
    unfold joinSessionOnline
    split
    next => exact .quiet
    next =>
      rw [core_send, core_send]
      exact .quiet
  next =>
    cases h
    rw [core_send]
    exact .quiet
  next => cases h

omit [JsMath R] in
theorem drainEarly_core (env : Env R) (g : Gateway R) (socket : SocketId)
    (messages : List String) : (g.drainEarly env socket messages).1.core = g.core := by
  cases messages with
  | nil => rfl
  | cons raw rest =>
    have hcore := onMessage_core env g socket raw
    simp only [drainEarly]
    split <;> rename_i heq <;> rw [heq] at hcore
    next => exact hcore
    next => exact (core_refuseConnection _ _).trans hcore
    next => exact hcore

omit [JsMath R] in
theorem startListening_core (env : Env R) (g : Gateway R) (socket : SocketId) (wire : Wire) :
    (g.startListening env socket wire).1.core = g.core := by
  simp only [startListening, drainEarly_core, core_modifyWire]

/-- Everything a stretch of `handleConnection` can change. -/
inductive ConnectionChanges (g : Gateway R) (now : Int) (uuid : String) (socket : SocketId)
    (pc : ConnectionPc) (answer : Answer) : Gateway R → Prop
  | quiet : ConnectionChanges g now uuid socket pc answer g.core
  | registered {payload : AccessTokenPayload} :
      ConnectionChanges g now uuid socket pc answer (g.register socket payload).core
  | frame {rest : List String} {framePc : FramePc} {ctx : SocketContext} {after : Gateway R}
      (place : pc = .early rest framePc) (context : g.contexts.get socket = some ctx)
      (changes : FrameChanges g now uuid socket ctx framePc answer after) :
      ConnectionChanges g now uuid socket pc answer after

theorem resumeConnection_changes {env : Env R} {rt : Runtime R} {g : Gateway R} {now : Int}
    {uuid : String} {socket : SocketId} {wire : Wire} {pc : ConnectionPc} {answer : Answer}
    {result : Gateway R × Outcome ConnectionPc}
    (h : g.resumeConnection env rt now uuid socket wire pc answer = some result) :
    ConnectionChanges g now uuid socket pc answer result.1.core := by
  unfold resumeConnection at h
  split at h
  next =>
    cases h
    rw [core_refuseConnection]
    exact .quiet
  next =>
    split at h
    next =>
      cases h
      rw [core_closeSocket, core_offEarly]
      exact .quiet
    next =>
      split at h
      next =>
        cases h
        rw [core_refuseConnection]
        exact .quiet
      next =>
        cases h
        exact .registered
  next =>
    cases h
    rw [core_refuseConnection]
    exact .quiet
  next =>
    cases h
    rw [startListening_core]
    exact .quiet
  next rest framePc answer =>
    obtain ⟨ctx, hctx, h⟩ := Option.bind_eq_some_iff.mp h
    obtain ⟨⟨after, outcome⟩, hframe, rfl⟩ := Option.map_eq_some_iff.mp h
    have hchanges := resumeFrame_changes hframe
    cases outcome with
    | rejected reason =>
      refine .frame rfl hctx ?_
      rw [core_refuseConnection]
      exact hchanges
    | _ => exact .frame rfl hctx hchanges
  next =>
    cases h
    rw [drainEarly_core]
    exact .quiet
  next => cases h

end Gateway

namespace Gateway
variable {R : Type}

/-- From `g` to `g'` only messages have been sent, each to a registered socket in
one of the rooms. -/
def Broadcasts (rooms : List String) (g g' : Gateway R) : Prop :=
  ∃ new, g' = { g with sent := g.sent ++ new } ∧ ∀ e ∈ new, ∃ ctx roomId,
    g.registered e.1 = some ctx ∧ ctx.roomId = some roomId ∧ roomId ∈ rooms

theorem Broadcasts.refl (rooms : List String) (g : Gateway R) : Broadcasts rooms g g := by
  refine ⟨[], ?_, fun e he => by cases he⟩
  rw [List.append_nil]

theorem Broadcasts.foldl {α : Type} {rooms : List String} {f : Gateway R → α → Gateway R}
    {l : List α} (h : ∀ g, ∀ a ∈ l, Broadcasts rooms g (f g a)) (g : Gateway R) :
    Broadcasts rooms g (l.foldl f g) := by
  induction l generalizing g with
  | nil => exact .refl rooms g
  | cons a rest ih =>
    obtain ⟨first, hfirst, hin⟩ := h g a List.mem_cons_self
    obtain ⟨later, hlater, hrest⟩ := ih (fun g b hb => h g b (List.mem_cons_of_mem a hb)) (f g a)
    refine ⟨first ++ later, ?_, fun e he => ?_⟩
    · rw [List.foldl_cons, hlater, hfirst, List.append_assoc]
    · rcases List.mem_append.mp he with hnew | hnew
      · exact hin e hnew
      · -- the messages sent before have unregistered no socket
        have hlast := hrest e hnew
        rw [hfirst] at hlast
        exact hlast

theorem broadcast_broadcasts {rooms : List String} {roomId : String} (hroom : roomId ∈ rooms)
    (g : Gateway R) (message : ServerMessage R) :
    Broadcasts rooms g (g.broadcast roomId message) := by
  refine Broadcasts.foldl (fun g socket _ => ?_) g
  split
  next => exact .refl rooms g
  next ctx hregistered =>
    split
    next hctx =>
      unfold send
      split
      next =>
        refine ⟨[(socket, message)], rfl, fun e he => ?_⟩
        cases List.mem_singleton.mp he
        exact ⟨ctx, roomId, hregistered, hctx, hroom⟩
      next => exact .refl rooms g
    next => exact .refl rooms g

/-- A tick sends to the rooms its object's snapshots go to. -/
theorem tick_broadcasts [Field R] [LinearOrder R] [JsMath R] (env : Env R) (g : Gateway R)
    (now : Int) (session : SessionId) (object : SessionObject R) :
    Broadcasts object.subscribers
      { g with sessions := g.sessions.modifySession session fun _ =>
          (object.session.step env now).session }
      (g.tick env now session object) := by
  refine Broadcasts.foldl (fun g event _ => ?_) _
  cases event with
  | snapshot message =>
    exact Broadcasts.foldl (fun g roomId hroom => broadcast_broadcasts hroom g _) g
  | playerDisconnected id => exact .refl _ g

end Gateway

/-- A handler that looks a room up waits for the lobby to find that room. -/
def FramePc.LooksUp : FramePc → ExternalCall → Prop
  | .roomLookup roomId, call => call = .findById roomId
  | _, _ => True

def Suspended.LooksUp (suspended : Suspended) : Prop :=
  match suspended.handler with
  | .message _ pc => pc.LooksUp suspended.call
  | .connection _ (.early _ pc) => pc.LooksUp suspended.call
  | _ => True

namespace Gateway
variable {R : Type} [Field R] [LinearOrder R] [JsMath R]

omit [JsMath R] in
theorem onMessage_looksUp {env : Env R} {g : Gateway R} {socket : SocketId} {raw : String}
    {pc : FramePc} {call : ExternalCall} (h : (g.onMessage env socket raw).2 = .awaiting pc call) :
    pc.LooksUp call := by
  unfold onMessage at h
  split at h
  next => cases h
  next =>
    split at h
    next => cases h
    next =>
      cases h
      trivial

theorem dispatch_looksUp {g : Gateway R} {now : Int} {socket : SocketId} {ctx : SocketContext}
    {message : ClientMessage R} {pc : FramePc} {call : ExternalCall}
    (h : (g.dispatch now socket ctx message).2 = .awaiting pc call) : pc.LooksUp call := by
  cases message with
  | joinSession roomId token =>
    simp only [dispatch, joinSession] at h
    split at h
    next =>
      cases h
      rfl
    next =>
      split at h <;> cases h
      rfl
  | heartbeat =>
    cases h
    trivial
  | _ => cases h

theorem resumeFrame_looksUp {rt : Runtime R} {g g' : Gateway R} {now : Int} {uuid : String}
    {socket : SocketId} {ctx : SocketContext} {pc next : FramePc} {answer : Answer}
    {call : ExternalCall}
    (h : g.resumeFrame rt now uuid socket ctx pc answer = some (g', .awaiting next call)) :
    next.LooksUp call := by
  unfold resumeFrame at h
  split at h
  next => cases h
  next raw allowed =>
    have hout := congrArg Prod.snd (Option.some.inj h)
    unfold onMessageLimited at hout
    split at hout
    next => cases hout
    next =>
      split at hout
      next => cases hout
      next =>
        split at hout
        next => cases hout
        next => exact dispatch_looksUp hout
  next roomId found =>
    have hout := congrArg Prod.snd (Option.some.inj h)
    rcases joinSessionRoom_outcome g now uuid socket ctx roomId found with
      ⟨-, hreject⟩ | ⟨-, hsettled | ⟨session, call', -, hawaits⟩⟩
    · cases hreject.symm.trans hout
    · cases hsettled.symm.trans hout
    · cases hawaits.symm.trans hout
      trivial
  next => cases h
  next => cases h
  next => cases h

omit [JsMath R] in
theorem drainEarly_looksUp {env : Env R} {g : Gateway R} {socket : SocketId}
    {messages : List String} {pc : ConnectionPc} {call : ExternalCall}
    (h : (g.drainEarly env socket messages).2 = .awaiting pc call) :
    Suspended.LooksUp ⟨.connection socket pc, call⟩ := by
  cases messages with
  | nil => cases h
  | cons raw rest =>
    simp only [drainEarly] at h
    split at h <;> rename_i heq <;> cases h
    next => trivial
    next => exact onMessage_looksUp (congrArg Prod.snd heq)

theorem resumeConnection_looksUp {env : Env R} {rt : Runtime R} {g : Gateway R} {now : Int}
    {uuid : String} {socket : SocketId} {wire : Wire} {pc next : ConnectionPc} {answer : Answer}
    {result : Gateway R × Outcome ConnectionPc} {call : ExternalCall}
    (h : g.resumeConnection env rt now uuid socket wire pc answer = some result)
    (hout : result.2 = .awaiting next call) :
    Suspended.LooksUp ⟨.connection socket next, call⟩ := by
  unfold resumeConnection at h
  split at h
  next =>
    cases h
    cases hout
  next =>
    split at h
    next =>
      cases h
      cases hout
    next =>
      split at h
      next =>
        cases h
        cases hout
      next =>
        cases h
        cases hout
        trivial
  next =>
    cases h
    cases hout
  next =>
    cases h
    exact drainEarly_looksUp hout
  next rest framePc answer =>
    obtain ⟨ctx, -, h⟩ := Option.bind_eq_some_iff.mp h
    obtain ⟨⟨after, outcome⟩, hframe, rfl⟩ := Option.map_eq_some_iff.mp h
    cases outcome with
    | settled =>
      cases hout
      trivial
    | rejected reason => cases hout
    | awaiting framePc' call' =>
      cases hout
      exact resumeFrame_looksUp hframe
  next =>
    cases h
    exact drainEarly_looksUp hout
  next => cases h

end Gateway
end RealtimeGameServer.Source
