import RealtimeGameServer.Source.AppSteps

/-!
# The steps of the server

`Moves` is the inversion of `Server.step` for handlers that interleave at every
await: what an event finds, what becomes of the gateway, and where the handler it
starts or resumes goes on. `ConnectionRuns` is that of a stretch of
`handleConnection`. The relations below them say what almost all steps leave alone:
which sockets are registered and for whom, and which have closed.
-/
namespace RealtimeGameServer.Source
open Lib

/-- Where a handler goes on after a stretch, if it does. -/
def Outcome.next {Pc : Type} (resume : Pc → Handler) : Outcome Pc → Option Suspended
  | .awaiting pc call => some ⟨resume pc, call⟩
  | _ => none

theorem Outcome.next_eq_some {Pc : Type} {resume : Pc → Handler} {outcome : Outcome Pc}
    {suspended : Suspended} (h : outcome.next resume = some suspended) :
    ∃ pc call, outcome = .awaiting pc call ∧ suspended = ⟨resume pc, call⟩ := by
  cases outcome with
  | awaiting pc call =>
    cases h
    exact ⟨pc, call, rfl, rfl⟩
  | _ => cases h

/-- The place of the buffered frame's handler that a connection runs. -/
def ConnectionPc.frame : ConnectionPc → Option FramePc
  | .early _ pc => some pc
  | _ => none

namespace Gateway

instance (playerId : String) (room : RoomEntity) : Decidable (Admits playerId room) :=
  inferInstanceAs (Decidable (_ ∧ _))

variable {R : Type} [Field R] [LinearOrder R] [JsMath R]

/-- What a stretch of a buffered frame's handler is for the connection that runs it. -/
def concludeEarly (socket : SocketId) (rest : List String) (result : Gateway R × Outcome FramePc) :
    Gateway R × Outcome ConnectionPc :=
  match result.2 with
  | .settled => (result.1, .awaiting (.next rest) .settled)
  | .rejected _ => (result.1.refuseConnection socket, .settled)
  | .awaiting framePc call => (result.1, .awaiting (.early rest framePc) call)

/-- The stretches of `handleConnection`, by where it waits and the answer. -/
inductive ConnectionRuns (env : Env R) (rt : Runtime R) (g : Gateway R) (now : Int) (uuid : String)
    (socket : SocketId) (wire : Wire) :
    ConnectionPc → Answer → Gateway R × Outcome ConnectionPc → Prop
  | limiterFailed : ConnectionRuns env rt g now uuid socket wire .ipLimited .failed
      (g.refuseConnection socket, .settled)
  | limited : ConnectionRuns env rt g now uuid socket wire .ipLimited (.limit false)
      ((g.offEarly socket).closeSocket socket, .settled)
  | unauthenticated (denied : authenticate rt wire.request = none) :
      ConnectionRuns env rt g now uuid socket wire .ipLimited (.limit true)
        (g.refuseConnection socket, .settled)
  | registered {payload : AccessTokenPayload}
      (authenticated : authenticate rt wire.request = some payload) :
      ConnectionRuns env rt g now uuid socket wire .ipLimited (.limit true)
        (g.register socket payload, .awaiting .online (.setOnline payload.playerId none))
  | presenceFailed : ConnectionRuns env rt g now uuid socket wire .online .failed
      (g.refuseConnection socket, .settled)
  | listening : ConnectionRuns env rt g now uuid socket wire .online .done
      (g.startListening env socket wire)
  | early {rest : List String} {framePc : FramePc} {answer : Answer} {ctx : SocketContext}
      {result : Gateway R × Outcome FramePc} (context : g.contexts.get socket = some ctx)
      (ran : g.resumeFrame rt now uuid socket ctx framePc answer = some result) :
      ConnectionRuns env rt g now uuid socket wire (.early rest framePc) answer
        (concludeEarly socket rest result)
  | drained {rest : List String} : ConnectionRuns env rt g now uuid socket wire (.next rest) .done
      (g.drainEarly env socket rest)

theorem resumeConnection_runs {env : Env R} {rt : Runtime R} {g : Gateway R} {now : Int}
    {uuid : String} {socket : SocketId} {wire : Wire} {pc : ConnectionPc} {answer : Answer}
    {result : Gateway R × Outcome ConnectionPc}
    (h : g.resumeConnection env rt now uuid socket wire pc answer = some result) :
    ConnectionRuns env rt g now uuid socket wire pc answer result := by
  unfold resumeConnection at h
  split at h
  next =>
    cases h
    exact .limiterFailed
  next allowed =>
    cases allowed with
    | false =>
      cases h
      exact .limited
    | true =>
      rw [if_neg fun hnot => hnot rfl] at h
      split at h
      next hdenied =>
        cases h
        exact .unauthenticated hdenied
      next hauthenticated =>
        cases h
        exact .registered hauthenticated
  next =>
    cases h
    exact .presenceFailed
  next =>
    cases h
    exact .listening
  next rest framePc =>
    obtain ⟨ctx, hctx, h⟩ := Option.bind_eq_some_iff.mp h
    obtain ⟨⟨after, outcome⟩, hframe, rfl⟩ := Option.map_eq_some_iff.mp h
    have hearly : ConnectionRuns env rt g now uuid socket wire (.early rest framePc) _
        (concludeEarly socket rest (after, outcome)) := .early hctx hframe
    cases outcome with
    | settled => exact hearly
    | rejected reason => exact hearly
    | awaiting pc call => exact hearly
  next =>
    cases h
    exact .drained
  next => cases h

omit [JsMath R] in
theorem drainEarly_next {env : Env R} {g : Gateway R} {socket : SocketId} {messages : List String}
    {pc : ConnectionPc} {call : ExternalCall}
    (h : (g.drainEarly env socket messages).2 = .awaiting pc call) : pc ≠ .ipLimited := by
  cases messages with
  | nil => cases h
  | cons raw rest =>
    simp only [drainEarly] at h
    split at h <;> cases h
    all_goals exact fun hpc => by cases hpc

/-- A connection waits for the rate limiter of its address only at its start. -/
theorem ConnectionRuns.next {env : Env R} {rt : Runtime R} {g : Gateway R} {now : Int}
    {uuid : String} {socket : SocketId} {wire : Wire} {pc next : ConnectionPc} {answer : Answer}
    {result : Gateway R × Outcome ConnectionPc} {call : ExternalCall}
    (h : ConnectionRuns env rt g now uuid socket wire pc answer result)
    (hout : result.2 = .awaiting next call) : next ≠ .ipLimited := by
  cases h with
  | registered =>
    cases hout
    exact fun hpc => by cases hpc
  | listening => exact drainEarly_next hout
  | @early rest framePc answer ctx result =>
    obtain ⟨after, outcome⟩ := result
    cases outcome with
    | rejected => cases hout
    | _ =>
      cases hout
      exact fun hpc => by cases hpc
  | drained => exact drainEarly_next hout
  | _ => cases hout

/-- Besides wires and messages a connection's stretch changes what the registration or
the buffered frame does. -/
theorem ConnectionRuns.core {env : Env R} {rt : Runtime R} {g : Gateway R} {now : Int}
    {uuid : String} {socket : SocketId} {wire : Wire} {pc : ConnectionPc} {answer : Answer}
    {result : Gateway R × Outcome ConnectionPc}
    (h : ConnectionRuns env rt g now uuid socket wire pc answer result) :
    (pc.frame = none ∧
      (result.1.core = g.core ∨ pc = .ipLimited ∧ ∃ payload, result.1 = g.register socket payload)) ∨
    ∃ framePc ctx after, pc.frame = some framePc ∧ g.contexts.get socket = some ctx ∧
      g.resumeFrame rt now uuid socket ctx framePc answer = some after ∧
      result.1.core = after.1.core := by
  cases h with
  | @registered payload =>
    exact Or.inl ⟨rfl, Or.inr ⟨rfl, payload, rfl⟩⟩
  | @early rest framePc answer ctx after context ran =>
    refine Or.inr ⟨framePc, ctx, after, rfl, context, ran, ?_⟩
    obtain ⟨after, outcome⟩ := after
    cases outcome with
    | rejected reason => exact core_refuseConnection after socket
    | _ => rfl
  | limited =>
    refine Or.inl ⟨rfl, Or.inl ?_⟩
    rw [core_closeSocket, core_offEarly]
  | listening =>
    exact Or.inl ⟨rfl, Or.inl (startListening_core env g socket wire)⟩
  | drained =>
    exact Or.inl ⟨rfl, Or.inl (drainEarly_core env g socket _)⟩
  | _ => exact Or.inl ⟨rfl, Or.inl (core_refuseConnection g socket)⟩

end Gateway

namespace Server
variable {R : Type}

/-- Handler `number` goes on at `next`; the others wait as before. -/
def Goes (s t : Server R) (number : Nat) (next : Option Suspended) : Prop :=
  ∀ i, t.handlers.get i = if i = number then next else s.handlers.get i

theorem goes_conclude {Pc : Type} (s : Server R) (number : Nat) (origin : Handler)
    (resume : Pc → Handler) (result : Gateway R × Outcome Pc) :
    Goes s (s.conclude number origin resume result) number (result.2.next resume) := by
  intro i
  rw [handlers_conclude]
  obtain ⟨g, outcome⟩ := result
  cases outcome <;> rfl

theorem gateway_launch {Pc : Type} (s : Server R) (origin : Handler) (resume : Pc → Handler)
    (result : Gateway R × Outcome Pc) : (s.launch origin resume result).gateway = result.1 :=
  gateway_conclude _ s.started origin resume result

theorem goes_launch {Pc : Type} (s : Server R) (origin : Handler) (resume : Pc → Handler)
    (result : Gateway R × Outcome Pc) :
    Goes s (s.launch origin resume result) s.started (result.2.next resume) :=
  goes_conclude _ s.started origin resume result

variable [Field R] [LinearOrder R] [JsMath R]

/-- What an event finds, and what becomes of the gateway and the handlers. -/
inductive Moves (env : Env R) (rt : Runtime R) (s t : Server R) : ServerEvent → Prop
  | connected {socket : SocketId} {request : Request} {call : ExternalCall}
      (unknown : s.gateway.wires.get socket = none)
      (gateway : t.gateway = { s.gateway with
        wires := s.gateway.wires.set socket ⟨request, .opened, .early [], false⟩ })
      (goes : Goes s t s.started (some ⟨.connection socket .ipLimited, call⟩)) :
      Moves env rt s t (.connect socket request)
  | buffered {socket : SocketId} {raw : String} {buffer : List String}
      (gateway : t.gateway = s.gateway.modifyWire socket fun wire =>
        { wire with listening := .early buffer })
      (handlers : t.handlers = s.handlers) : Moves env rt s t (.frame socket raw)
  | received {socket : SocketId} {raw : String}
      (gateway : t.gateway = (s.gateway.onMessage env socket raw).1)
      (goes : Goes s t s.started ((s.gateway.onMessage env socket raw).2.next (.message socket))) :
      Moves env rt s t (.frame socket raw)
  | ignored {socket : SocketId} {raw : String} (same : t = s) : Moves env rt s t (.frame socket raw)
  | frame {number : Nat} {now : Int} {uuid : String} {answer : Answer} {socket : SocketId}
      {pc : FramePc} {call : ExternalCall} {ctx : SocketContext}
      {result : Gateway R × Outcome FramePc}
      (handler : s.handlers.get number = some ⟨.message socket pc, call⟩)
      (context : s.gateway.contexts.get socket = some ctx)
      (ran : s.gateway.resumeFrame rt now uuid socket ctx pc answer = some result)
      (gateway : t.gateway = result.1) (goes : Goes s t number (result.2.next (.message socket))) :
      Moves env rt s t (.answer number now uuid answer)
  | connection {number : Nat} {now : Int} {uuid : String} {answer : Answer} {socket : SocketId}
      {pc : ConnectionPc} {call : ExternalCall} {wire : Wire}
      {result : Gateway R × Outcome ConnectionPc}
      (handler : s.handlers.get number = some ⟨.connection socket pc, call⟩)
      (known : s.gateway.wires.get socket = some wire)
      (ran : Gateway.ConnectionRuns env rt s.gateway now uuid socket wire pc answer result)
      (gateway : t.gateway = result.1)
      (goes : Goes s t number (result.2.next (.connection socket))) :
      Moves env rt s t (.answer number now uuid answer)
  | offline {number : Nat} {now : Int} {uuid : String} {answer : Answer} {socket : SocketId}
      {call : ExternalCall} (handler : s.handlers.get number = some ⟨.close socket, call⟩)
      (gateway : t.gateway = s.gateway) (goes : Goes s t number none) :
      Moves env rt s t (.answer number now uuid answer)
  | closed {socket : SocketId} {wire : Wire} {g : Gateway R}
      (known : s.gateway.wires.get socket = some wire) (listens : wire.closeListener = true)
      (wired : g = s.gateway.modifyWire socket fun wire => { wire with readyState := .closed })
      (gateway : t.gateway = (g.onClose socket).1)
      (goes : Goes s t s.started ((g.onClose socket).2.next fun _ => .close socket)) :
      Moves env rt s t (.close socket)
  | unheard {socket : SocketId} {wire : Wire} (known : s.gateway.wires.get socket = some wire)
      (deaf : wire.closeListener = false)
      (gateway : t.gateway = s.gateway.modifyWire socket fun wire =>
        { wire with readyState := .closed })
      (handlers : t.handlers = s.handlers) : Moves env rt s t (.close socket)
  | ticked {session : SessionId} {now : Int} {object : SessionObject R}
      (current : s.gateway.sessions.object session = some object) (running : object.running = true)
      (gateway : t.gateway = s.gateway.tick env now session object)
      (handlers : t.handlers = s.handlers) : Moves env rt s t (.tick session now)
  | destroyed {roomId : String}
      (gateway : t.gateway = { s.gateway with sessions := s.gateway.sessions.destroy roomId })
      (handlers : t.handlers = s.handlers) : Moves env rt s t (.destroy roomId)
  | shutDown
      (gateway : t.gateway = { s.gateway.sockets.foldl Gateway.closeSocket s.gateway with
        sessions := s.gateway.sessions.destroyAll })
      (handlers : t.handlers = s.handlers) : Moves env rt s t .shutdown

theorem moves {env : Env R} {rt : Runtime R} {s t : Server R} {event : ServerEvent}
    (h : (machine env rt).step s event = some t) : Moves env rt s t event := by
  change s.step env rt event = some t at h
  cases event with
  | connect socket request =>
    simp only [step, connect] at h
    split at h
    next => cases h
    next hunknown =>
      cases h
      exact .connected hunknown (gateway_launch s _ _ _) (goes_launch s _ _ _)
  | frame socket raw =>
    simp only [step, Server.frame] at h
    split at h
    next => cases h
    next =>
      split at h
      next => cases h
      next =>
        split at h <;> cases h
        next => exact .buffered rfl rfl
        next => exact .received (gateway_launch s _ _ _) (goes_launch s _ _ _)
        next => exact .ignored rfl
  | answer number now uuid answer =>
    simp only [step, Server.resume] at h
    split at h
    next => cases h
    next socket pc call hget =>
      obtain ⟨ctx, hctx, h⟩ := Option.bind_eq_some_iff.mp h
      obtain ⟨result, hran, rfl⟩ := Option.map_eq_some_iff.mp h
      exact .frame hget hctx hran (gateway_conclude s _ _ _ _) (goes_conclude s _ _ _ _)
    next socket pc call hget =>
      obtain ⟨wire, hwire, h⟩ := Option.bind_eq_some_iff.mp h
      obtain ⟨result, hran, rfl⟩ := Option.map_eq_some_iff.mp h
      exact .connection hget hwire (Gateway.resumeConnection_runs hran) (gateway_conclude s _ _ _ _)
        (goes_conclude s _ _ _ _)
    next socket call hget =>
      split at h <;> cases h
      all_goals exact .offline hget (gateway_conclude s _ _ _ _) (goes_conclude s _ _ _ _)
  | close socket =>
    simp only [step, Server.close] at h
    split at h
    next => cases h
    next wire hwire =>
      split at h
      next => cases h
      next =>
        split at h <;> cases h
        next hlistens => exact .closed hwire hlistens rfl (gateway_launch s _ _ _) (goes_launch s _ _ _)
        next hdeaf => exact .unheard hwire (Bool.eq_false_iff.mpr hdeaf) rfl rfl
  | tick session now =>
    simp only [step, Server.tick] at h
    split at h
    next => cases h
    next object hobject =>
      split at h <;> cases h
      next hrunning => exact .ticked hobject hrunning rfl rfl
  | destroy roomId =>
    cases h
    exact .destroyed rfl rfl
  | shutdown =>
    cases h
    exact .shutDown rfl rfl

end Server

/-- An event of the gateway's server, a call of `getOrCreate`, or the lobby route that
makes one and adds the members of the room. -/
inductive SharedEvent where
  | server (event : ServerEvent)
  | getOrCreate (roomId : String)
  | startRoute (now : Int) (room : RoomEntity)

namespace Server
variable {R : Type}

def withSessions (s : Server R) (sessions : GameSessionManager R) : Server R :=
  { s with gateway := { s.gateway with sessions } }

variable [Field R] [LinearOrder R] [JsMath R]

def sharedStep (env : Env R) (rt : Runtime R) (s : Server R) : SharedEvent → Option (Server R)
  | .server event => s.step env rt event
  | .getOrCreate roomId => some (withSessions s (s.gateway.sessions.getOrCreate roomId).1)
  | .startRoute now room =>
    some (withSessions s (AppContainer.startRoute s.gateway.sessions now room))

def shared (env : Env R) (rt : Runtime R) : Machine (Server R) SharedEvent where
  step := sharedStep env rt

end Server
end RealtimeGameServer.Source
