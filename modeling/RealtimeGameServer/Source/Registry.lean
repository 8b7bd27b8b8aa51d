import RealtimeGameServer.Source.ServerSteps

/-!
# The sockets the gateway has registered

`sockets` and `socketsByPlayer` are written by the registration, by the replacement
of a player's older socket and by `onClose`. `Connects` sorts the steps of the
server by what they do to the two maps and to the open sockets: almost all leave
them alone. `Registry` is the invariant that keeps the maps consistent under every
interleaving, with `Connecting` for the handlers that have not registered theirs.
-/
namespace RealtimeGameServer.Source
open Lib

namespace Gateway
variable {R : Type}

/-- The player a registered socket is registered for. -/
def owner (g : Gateway R) (socket : SocketId) : Option String :=
  (g.registered socket).map SocketContext.playerId

/-- Whether the close event of a socket has fired; `none` for an unknown socket. -/
def shut (g : Gateway R) (socket : SocketId) : Option Bool :=
  (g.wires.get socket).map fun wire => decide (wire.readyState = .closed)

theorem owner_eq_some {g : Gateway R} {socket : SocketId} {playerId : String} :
    g.owner socket = some playerId ↔ socket ∈ g.sockets ∧
      (g.contexts.get socket).map SocketContext.playerId = some playerId := by
  unfold owner registered
  split
  next hmem => exact ⟨fun h => ⟨hmem, h⟩, fun h => h.2⟩
  next hmem =>
    constructor
    · intro h
      cases h
    · exact fun h => absurd h.1 hmem

/-- The same sockets are registered for the same players, and no socket has been
opened or closed. -/
structure SameConnections (g g' : Gateway R) : Prop where
  sockets : g'.sockets = g.sockets
  byPlayer : g'.socketsByPlayer = g.socketsByPlayer
  players : ∀ i, (g'.contexts.get i).map SocketContext.playerId =
    (g.contexts.get i).map SocketContext.playerId
  shut : ∀ i, g'.shut i = g.shut i

theorem SameConnections.refl (g : Gateway R) : SameConnections g g :=
  ⟨rfl, rfl, fun _ => rfl, fun _ => rfl⟩

theorem SameConnections.trans {g g' g'' : Gateway R} (h : SameConnections g g')
    (h' : SameConnections g' g'') : SameConnections g g'' where
  sockets := h'.sockets.trans h.sockets
  byPlayer := h'.byPlayer.trans h.byPlayer
  players i := (h'.players i).trans (h.players i)
  shut i := (h'.shut i).trans (h.shut i)

theorem SameConnections.owner {g g' : Gateway R} (h : SameConnections g g') (i : SocketId) :
    g'.owner i = g.owner i := by
  refine Option.ext fun playerId => ?_
  rw [owner_eq_some, owner_eq_some, h.sockets, h.players]

theorem SameConnections.of_core {g g' : Gateway R} (hcore : g'.core = g.core)
    (hshut : ∀ i, g'.shut i = g.shut i) : SameConnections g g' where
  sockets := sockets_of_core hcore
  byPlayer := by
    have h := congrArg Gateway.socketsByPlayer hcore
    exact h
  players i := by
    have h : g'.contexts = g.contexts := by
      have h := congrArg Gateway.contexts hcore
      exact h
    rw [h]
  shut := hshut

theorem shut_of_wires {g g' : Gateway R} (h : g'.wires = g.wires) (i : SocketId) :
    g'.shut i = g.shut i := by
  unfold shut
  rw [h]

theorem sameConnections_modifyWire (g : Gateway R) (socket : SocketId) {f : Wire → Wire}
    (hf : ∀ wire, (f wire).readyState = .closed ↔ wire.readyState = .closed) :
    SameConnections g (g.modifyWire socket f) := by
  refine .of_core (core_modifyWire g socket f) fun i => ?_
  unfold shut
  rw [get_modifyWire]
  split
  next =>
    rw [Option.map_map]
    congr 1
    funext wire
    exact decide_eq_decide.mpr (hf wire)
  next => rfl

theorem sameConnections_closeSocket (g : Gateway R) (socket : SocketId) :
    SameConnections g (g.closeSocket socket) := by
  refine sameConnections_modifyWire g socket fun wire => ?_
  split
  next hopened => simp [hopened]
  next => exact Iff.rfl

theorem sameConnections_offEarly (g : Gateway R) (socket : SocketId) :
    SameConnections g (g.offEarly socket) := by
  refine sameConnections_modifyWire g socket fun wire => ?_
  split <;> exact Iff.rfl

theorem sameConnections_send (g : Gateway R) (socket : SocketId) (message : ServerMessage R) :
    SameConnections g (g.send socket message) :=
  .of_core (core_send g socket message) (shut_of_wires (send_wires g socket message))

theorem sameConnections_refuse (g : Gateway R) (socket : SocketId) :
    SameConnections g (g.refuseConnection socket) :=
  ((sameConnections_offEarly g socket).trans (sameConnections_send _ _ _)).trans
    (sameConnections_closeSocket _ socket)

theorem sameConnections_foldl {α : Type} {f : Gateway R → α → Gateway R}
    (hf : ∀ g a, SameConnections g (f g a)) (l : List α) (g : Gateway R) :
    SameConnections g (l.foldl f g) := by
  induction l generalizing g with
  | nil => exact .refl g
  | cons a rest ih => exact (hf g a).trans (ih (f g a))

variable [Field R] [LinearOrder R] [JsMath R]

omit [JsMath R] in
theorem sameConnections_onMessage (env : Env R) (g : Gateway R) (socket : SocketId)
    (raw : String) : SameConnections g (g.onMessage env socket raw).1 :=
  .of_core (onMessage_core env g socket raw)
    (shut_of_wires (keepsSockets_onMessage env g socket raw).wires)

omit [LinearOrder R] in
theorem enter_byPlayer (g : Gateway R) (now : Int) (uuid : String) (socket : SocketId)
    (ctx : SocketContext) (roomId : String) :
    (g.enter now uuid socket ctx roomId).socketsByPlayer = g.socketsByPlayer := by
  unfold enter issueReconnectToken modifyContext subscribe
  dsimp only
  split <;> split <;> rfl

/-- A frame registers and unregisters nobody. -/
theorem sameConnections_frame {rt : Runtime R} {g : Gateway R} {now : Int} {uuid : String}
    {socket : SocketId} {ctx : SocketContext} {pc : FramePc} {answer : Answer}
    {result : Gateway R × Outcome FramePc}
    (h : g.resumeFrame rt now uuid socket ctx pc answer = some result) :
    SameConnections g result.1 := by
  have hshut := shut_of_wires (resumeFrame_wires h)
  have hchanges := resumeFrame_changes h
  obtain ⟨after, outcome⟩ := result
  dsimp only at hchanges hshut
  have hcore : ∀ core, after.core = core → core.sockets = g.sockets →
      core.socketsByPlayer = g.socketsByPlayer →
      (∀ i, (core.contexts.get i).map SocketContext.playerId =
        (g.contexts.get i).map SocketContext.playerId) → SameConnections g after := by
    rintro core rfl hsockets hbyPlayer hplayers
    exact ⟨hsockets, hbyPlayer, hplayers, hshut⟩
  generalize hafter : after.core = core at hchanges
  cases hchanges with
  | @entered roomId room place found admits =>
    refine hcore _ hafter (enter_sockets g now uuid socket ctx roomId)
      (enter_byPlayer g now uuid socket ctx roomId) fun i => ?_
    change ((g.enter now uuid socket ctx roomId).contexts.get i).map SocketContext.playerId = _
    rw [contexts_enter]
    split
    next =>
      rw [Option.map_map]
      rfl
    next => rfl
  | _ => exact hcore _ hafter rfl rfl fun _ => rfl

omit [JsMath R] in
theorem sameConnections_drain (env : Env R) (g : Gateway R) (socket : SocketId)
    (messages : List String) : SameConnections g (g.drainEarly env socket messages).1 := by
  cases messages with
  | nil => exact .refl g
  | cons raw rest =>
    have hsame := sameConnections_onMessage env g socket raw
    simp only [drainEarly]
    split <;> rename_i heq <;> rw [heq] at hsame
    next => exact hsame
    next => exact hsame.trans (sameConnections_refuse _ socket)
    next => exact hsame

theorem sameConnections_tick (env : Env R) (g : Gateway R) (now : Int) (session : SessionId)
    (object : SessionObject R) : SameConnections g (g.tick env now session object) := by
  obtain ⟨new, heq, -⟩ := tick_broadcasts env g now session object
  rw [heq]
  exact ⟨rfl, rfl, fun _ => rfl, fun _ => rfl⟩

/-- A stretch of a connection's handler leaves the registry alone unless it
registers the socket. -/
theorem ConnectionRuns.connections {env : Env R} {rt : Runtime R} {g : Gateway R} {now : Int}
    {uuid : String} {socket : SocketId} {wire : Wire} {pc : ConnectionPc} {answer : Answer}
    {result : Gateway R × Outcome ConnectionPc}
    (h : ConnectionRuns env rt g now uuid socket wire pc answer result) :
    SameConnections g result.1 ∨ ∃ payload, pc = .ipLimited ∧ answer = .limit true ∧
      authenticate rt wire.request = some payload ∧ result.1 = g.register socket payload := by
  cases h with
  | limiterFailed => exact Or.inl (sameConnections_refuse g socket)
  | limited =>
    exact Or.inl ((sameConnections_offEarly g socket).trans (sameConnections_closeSocket _ socket))
  | unauthenticated => exact Or.inl (sameConnections_refuse g socket)
  | @registered payload authenticated => exact Or.inr ⟨payload, rfl, rfl, authenticated, rfl⟩
  | presenceFailed => exact Or.inl (sameConnections_refuse g socket)
  | listening =>
    have hwire : SameConnections g (g.modifyWire socket fun wire =>
        { wire with listening := .live, closeListener := true }) :=
      sameConnections_modifyWire g socket fun _ => Iff.rfl
    exact Or.inl (hwire.trans (sameConnections_drain env _ socket _))
  | @early rest framePc answer ctx result context ran =>
    have hframe := sameConnections_frame ran
    obtain ⟨after, outcome⟩ := result
    cases outcome with
    | rejected reason => exact Or.inl (hframe.trans (sameConnections_refuse after socket))
    | _ => exact Or.inl hframe
  | drained => exact Or.inl (sameConnections_drain env g socket _)

end Gateway

namespace Server
variable {R : Type}

/-- A socket whose connection waits for the rate limiter of its address. -/
def Limited (s : Server R) (number : Nat) (socket : SocketId) : Prop :=
  ∃ call, s.handlers.get number = some ⟨.connection socket .ipLimited, call⟩

/-- What an event does to the registered and to the open sockets. -/
inductive Connects (rt : Runtime R) (s t : Server R) : ServerEvent → Prop
  | kept {event : ServerEvent} (same : s.gateway.SameConnections t.gateway)
      (limited : ∀ number socket, t.Limited number socket → s.Limited number socket) :
      Connects rt s t event
  | connected {socket : SocketId} {request : Request}
      (unknown : s.gateway.wires.get socket = none)
      (gateway : t.gateway = { s.gateway with
        wires := s.gateway.wires.set socket ⟨request, .opened, .early [], false⟩ })
      (limited : ∀ number i, t.Limited number i →
        (number = s.started ∧ i = socket) ∨ (number ≠ s.started ∧ s.Limited number i)) :
      Connects rt s t (.connect socket request)
  | registered {number : Nat} {now : Int} {uuid : String} {socket : SocketId} {wire : Wire}
      {payload : AccessTokenPayload} (pending : s.Limited number socket)
      (known : s.gateway.wires.get socket = some wire)
      (authenticated : authenticate rt wire.request = some payload)
      (gateway : t.gateway = s.gateway.register socket payload)
      (limited : ∀ i other, t.Limited i other → i ≠ number ∧ s.Limited i other) :
      Connects rt s t (.answer number now uuid (.limit true))
  | closed {socket : SocketId} {wire : Wire} {g : Gateway R}
      (known : s.gateway.wires.get socket = some wire) (listens : wire.closeListener = true)
      (wired : g = s.gateway.modifyWire socket fun wire => { wire with readyState := .closed })
      (gateway : t.gateway = (g.onClose socket).1)
      (limited : ∀ number i, t.Limited number i → s.Limited number i) :
      Connects rt s t (.close socket)
  | unheard {socket : SocketId} {wire : Wire} (known : s.gateway.wires.get socket = some wire)
      (deaf : wire.closeListener = false)
      (gateway : t.gateway = s.gateway.modifyWire socket fun wire =>
        { wire with readyState := .closed })
      (limited : ∀ number i, t.Limited number i → s.Limited number i) :
      Connects rt s t (.close socket)

/-- A handler that goes on somewhere else than at the rate limiter of its address. -/
theorem Goes.limited {s t : Server R} {number : Nat} {next : Option Suspended}
    (h : Goes s t number next) (hnext : ∀ socket call, next ≠ some ⟨.connection socket .ipLimited, call⟩)
    {i : Nat} {socket : SocketId} (hlimited : t.Limited i socket) :
    i ≠ number ∧ s.Limited i socket := by
  obtain ⟨call, hget⟩ := hlimited
  rw [h i] at hget
  split at hget
  next => exact absurd hget (hnext socket call)
  next hne => exact ⟨hne, call, hget⟩

theorem limited_of_handlers {s t : Server R} (h : t.handlers = s.handlers) {number : Nat}
    {socket : SocketId} (hlimited : t.Limited number socket) : s.Limited number socket := by
  obtain ⟨call, hget⟩ := hlimited
  rw [h] at hget
  exact ⟨call, hget⟩

theorem next_ne_limited {Pc : Type} {resume : Pc → Handler} {outcome : Outcome Pc}
    (h : ∀ pc call, outcome = .awaiting pc call → ∀ socket, resume pc ≠ .connection socket .ipLimited)
    (socket : SocketId) (call : ExternalCall) :
    outcome.next resume ≠ some ⟨.connection socket .ipLimited, call⟩ := by
  intro heq
  cases outcome with
  | awaiting pc call' =>
    exact h pc call' rfl socket (congrArg Suspended.handler (Option.some.inj heq))
  | _ => cases heq

variable [Field R] [LinearOrder R] [JsMath R]

theorem Moves.connects {env : Env R} {rt : Runtime R} {s t : Server R} {event : ServerEvent}
    (h : Moves env rt s t event) : Connects rt s t event := by
  cases h with
  | @connected socket request call unknown gateway goes =>
    refine .connected unknown gateway fun number i hlimited => ?_
    obtain ⟨call', hget⟩ := hlimited
    rw [goes number] at hget
    split at hget
    next hnumber =>
      cases hget
      exact Or.inl ⟨hnumber, rfl⟩
    next hnumber => exact Or.inr ⟨hnumber, call', hget⟩
  | buffered gateway handlers =>
    refine .kept ?_ fun number socket => limited_of_handlers handlers
    rw [gateway]
    exact Gateway.sameConnections_modifyWire _ _ fun _ => Iff.rfl
  | received gateway goes =>
    refine .kept ?_ fun number socket hlimited => (goes.limited ?_ hlimited).2
    · rw [gateway]
      exact Gateway.sameConnections_onMessage env _ _ _
    · exact next_ne_limited fun _ _ _ _ heq => by cases heq
  | ignored same =>
    rw [same]
    exact .kept (.refl _) fun _ _ hlimited => hlimited
  | frame handler context ran gateway goes =>
    refine .kept ?_ fun number socket hlimited => (goes.limited ?_ hlimited).2
    · rw [gateway]
      exact Gateway.sameConnections_frame ran
    · exact next_ne_limited fun _ _ _ _ heq => by cases heq
  | @connection number now uuid answer socket pc call wire result handler known ran gateway goes =>
    have hlimited : ∀ i other, t.Limited i other → i ≠ number ∧ s.Limited i other := by
      intro i other
      refine goes.limited (next_ne_limited fun pc call hout other heq => ?_)
      cases heq
      exact ran.next hout rfl
    rcases ran.connections with hsame | ⟨payload, rfl, rfl, hauthenticated, hresult⟩
    · refine .kept ?_ fun i other h => (hlimited i other h).2
      rw [gateway]
      exact hsame
    · exact .registered ⟨call, handler⟩ known hauthenticated (gateway.trans hresult) hlimited
  | offline handler gateway goes =>
    refine .kept ?_ fun number socket hlimited => (goes.limited ?_ hlimited).2
    · rw [gateway]
      exact .refl _
    · exact fun _ _ heq => by cases heq
  | closed known listens wired gateway goes =>
    refine .closed known listens wired gateway fun number i hlimited => (goes.limited ?_ hlimited).2
    exact next_ne_limited fun _ _ _ _ heq => by cases heq
  | unheard known deaf gateway handlers =>
    exact .unheard known deaf gateway fun number i => limited_of_handlers handlers
  | ticked current running gateway handlers =>
    refine .kept ?_ fun number i => limited_of_handlers handlers
    rw [gateway]
    exact Gateway.sameConnections_tick env _ _ _ _
  | destroyed gateway handlers =>
    refine .kept ?_ fun number i => limited_of_handlers handlers
    rw [gateway]
    exact ⟨rfl, rfl, fun _ => rfl, fun _ => rfl⟩
  | shutDown gateway handlers =>
    refine .kept ?_ fun number i => limited_of_handlers handlers
    rw [gateway]
    have hclosed := Gateway.sameConnections_foldl Gateway.sameConnections_closeSocket
      s.gateway.sockets s.gateway
    exact ⟨hclosed.sockets, hclosed.byPlayer, hclosed.players, hclosed.shut⟩

end Server

namespace Gateway
variable {R : Type}

/-- The two maps agree, a registered socket has its context object, and only a socket
that has connected has one. -/
structure Registry (g : Gateway R) : Prop where
  nodup : g.sockets.Nodup
  byPlayer : ∀ playerId socket, g.socketsByPlayer.get playerId = some socket ↔
    g.owner socket = some playerId
  contexts : ∀ socket ∈ g.sockets, (g.contexts.get socket).isSome
  known : ∀ socket, (g.contexts.get socket).isSome → (g.shut socket).isSome

theorem registry_empty : Registry (empty : Gateway R) := by
  constructor
  case nodup => exact List.nodup_nil
  case byPlayer =>
    intro playerId socket
    constructor <;> intro h <;> cases h
  case contexts =>
    intro socket hmem
    cases hmem
  case known =>
    intro socket hsome
    cases hsome

theorem SameConnections.isSome {g g' : Gateway R} (h : SameConnections g g') (i : SocketId) :
    (g'.contexts.get i).isSome = (g.contexts.get i).isSome := by
  have hplayers := congrArg Option.isSome (h.players i)
  rwa [Option.isSome_map, Option.isSome_map] at hplayers

theorem Registry.same {g g' : Gateway R} (h : Registry g) (hsame : SameConnections g g') :
    Registry g' where
  nodup := by
    rw [hsame.sockets]
    exact h.nodup
  byPlayer playerId socket := by
    rw [hsame.byPlayer, hsame.owner]
    exact h.byPlayer playerId socket
  contexts socket hmem := by
    rw [hsame.sockets] at hmem
    rw [hsame.isSome]
    exact h.contexts socket hmem
  known socket hsome := by
    rw [hsame.isSome] at hsome
    rw [hsame.shut]
    exact h.known socket hsome

/-- Only the wires have changed, and none has been forgotten. -/
theorem Registry.wires {g g' : Gateway R} (h : Registry g) (hcore : g'.core = g.core)
    (hshut : ∀ i, (g.shut i).isSome → (g'.shut i).isSome) : Registry g' := by
  have hbyPlayer : g'.socketsByPlayer = g.socketsByPlayer := by
    have h := congrArg Gateway.socketsByPlayer hcore
    exact h
  have hcontexts : g'.contexts = g.contexts := by
    have h := congrArg Gateway.contexts hcore
    exact h
  have hsockets := sockets_of_core hcore
  constructor
  case nodup =>
    rw [hsockets]
    exact h.nodup
  case byPlayer =>
    intro playerId socket
    rw [owner_eq_some, hbyPlayer, hsockets, hcontexts, ← owner_eq_some]
    exact h.byPlayer playerId socket
  case contexts =>
    rw [hsockets, hcontexts]
    exact h.contexts
  case known =>
    intro socket hsome
    rw [hcontexts] at hsome
    exact hshut socket (h.known socket hsome)

/-- One player has one registered socket at most. -/
theorem Registry.single {g : Gateway R} (h : Registry g) {i j : SocketId} {playerId : String}
    (hi : g.owner i = some playerId) (hj : g.owner j = some playerId) : i = j :=
  Option.some.inj (((h.byPlayer playerId i).mpr hi).symm.trans ((h.byPlayer playerId j).mpr hj))

theorem shut_closeSocket (g : Gateway R) (socket i : SocketId) :
    (g.closeSocket socket).shut i = g.shut i := (sameConnections_closeSocket g socket).shut i

theorem shut_register (g : Gateway R) (socket i : SocketId) (payload : AccessTokenPayload) :
    (g.register socket payload).shut i = g.shut i := by
  unfold register replaceExistingSocket
  dsimp only
  split
  next => rfl
  next existing _ => exact shut_closeSocket g existing i

/-- The sockets after a registration: the player's older one is gone. -/
theorem sockets_register (g : Gateway R) (socket : SocketId) (payload : AccessTokenPayload) :
    (g.register socket payload).sockets =
      (g.sockets.filter fun i => g.socketsByPlayer.get payload.playerId ≠ some i) ++ [socket] := by
  unfold register replaceExistingSocket
  dsimp only
  split
  next hnone =>
    congr 1
    refine (List.filter_eq_self.mpr fun i _ => ?_).symm
    rw [hnone]
    exact decide_eq_true fun h => by cases h
  next existing hsome =>
    congr 1
    dsimp only
    rw [sockets_of_core (core_closeSocket g existing)]
    refine List.filter_congr fun i _ => ?_
    rw [hsome]
    exact decide_eq_decide.mpr ⟨fun hne heq => hne (Option.some.inj heq).symm,
      fun hne heq => hne (congrArg some heq.symm)⟩

theorem byPlayer_register (g : Gateway R) (socket : SocketId) (payload : AccessTokenPayload)
    (playerId : String) : (g.register socket payload).socketsByPlayer.get playerId =
      if playerId = payload.playerId then some socket else g.socketsByPlayer.get playerId := by
  unfold register
  dsimp only
  rw [JsMap.get_set]
  split
  next => rfl
  next hne =>
    unfold replaceExistingSocket
    split
    next => rfl
    next existing _ =>
      dsimp only
      have hcore : (g.closeSocket existing).socketsByPlayer = g.socketsByPlayer := by
        have h := congrArg Gateway.socketsByPlayer (core_closeSocket g existing)
        exact h
      rw [JsMap.get_delete, if_neg hne, hcore]

theorem contexts_register (g : Gateway R) (socket : SocketId) (payload : AccessTokenPayload)
    (i : SocketId) : (g.register socket payload).contexts.get i =
      if i = socket then
        some ⟨payload.userId, payload.playerId, payload.username, none, none⟩
      else g.contexts.get i := by
  unfold register
  dsimp only
  rw [JsMap.get_set, replaceExistingSocket_contexts]

theorem owner_register {g : Gateway R} (h : Registry g) {socket : SocketId}
    {payload : AccessTokenPayload} (hfresh : g.contexts.get socket = none) (i : SocketId)
    (playerId : String) : (g.register socket payload).owner i = some playerId ↔
      (i = socket ∧ playerId = payload.playerId) ∨
        (playerId ≠ payload.playerId ∧ g.owner i = some playerId) := by
  rw [owner_eq_some, sockets_register, contexts_register, List.mem_append, List.mem_singleton,
    List.mem_filter, decide_eq_true_eq, owner_eq_some]
  by_cases hi : i = socket
  · subst hi
    simp only [or_true, true_and, if_true, Option.map_some, Option.some.injEq, hfresh,
      Option.map_none, reduceCtorEq, and_false, or_false]
    exact eq_comm
  · simp only [hi, or_false, if_false, false_and, false_or]
    constructor
    · rintro ⟨⟨hmem, hkept⟩, hplayer⟩
      refine ⟨fun heq => hkept ?_, hmem, hplayer⟩
      rw [← heq]
      exact (h.byPlayer playerId i).mpr (owner_eq_some.mpr ⟨hmem, hplayer⟩)
    · rintro ⟨hne, hmem, hplayer⟩
      refine ⟨⟨hmem, fun heq => hne ?_⟩, hplayer⟩
      have howner := (h.byPlayer _ i).mp heq
      exact Option.some.inj (hplayer.symm.trans (owner_eq_some.mp howner).2)

theorem Registry.register {g : Gateway R} (h : Registry g) {socket : SocketId}
    {payload : AccessTokenPayload} (hfresh : g.contexts.get socket = none)
    (hknown : (g.shut socket).isSome) : Registry (g.register socket payload) := by
  have habsent : socket ∉ g.sockets := by
    intro hmem
    have hsome := h.contexts socket hmem
    rw [hfresh] at hsome
    cases hsome
  constructor
  case nodup =>
    rw [sockets_register]
    refine List.Nodup.append (h.nodup.filter _) (List.nodup_singleton socket) ?_
    intro i hi hsocket
    rw [List.mem_singleton.mp hsocket] at hi
    exact habsent (List.mem_filter.mp hi).1
  case byPlayer =>
    intro playerId i
    rw [byPlayer_register, owner_register h hfresh]
    split
    next heq => simp [heq, eq_comm]
    next hne => simp [hne, h.byPlayer]
  case contexts =>
    intro i hmem
    rw [sockets_register, List.mem_append, List.mem_singleton] at hmem
    rw [contexts_register]
    split
    next => rfl
    next hne =>
      rcases hmem with hold | hnew
      · exact h.contexts i (List.mem_filter.mp hold).1
      · exact absurd hnew hne
  case known =>
    intro i hsome
    rw [contexts_register] at hsome
    rw [shut_register]
    split at hsome
    next heq => rwa [heq]
    next => exact h.known i hsome

/-- The player whose entry a close removes is that of the socket. -/
theorem byPlayer_onClose {g : Gateway R} (h : Registry g) (socket : SocketId) (playerId : String) :
    (g.onClose socket).1.socketsByPlayer.get playerId =
      if g.owner socket = some playerId then none else g.socketsByPlayer.get playerId := by
  have howner : g.owner socket = (g.registered socket).map SocketContext.playerId := rfl
  unfold onClose
  split
  next hnone =>
    rw [howner, hnone]
    rfl
  next ctx hctx =>
    rw [hctx, Option.map_some] at howner
    dsimp only
    rw [if_pos ((h.byPlayer ctx.playerId socket).mpr howner), howner]
    have hdelete := JsMap.get_delete g.socketsByPlayer ctx.playerId playerId
    simp only [eq_comm (a := playerId), Option.some.injEq] at hdelete ⊢
    split <;> exact hdelete

theorem shut_onClose (g : Gateway R) (socket i : SocketId) :
    (g.onClose socket).1.shut i = g.shut i := by
  refine shut_of_wires ?_ i
  unfold onClose
  split
  next => rfl
  next =>
    dsimp only
    split <;> split <;> rfl

theorem Registry.onClose {g : Gateway R} (h : Registry g) (socket : SocketId) :
    Registry (g.onClose socket).1 := by
  obtain ⟨byPlayer, sessions, hcore, -⟩ := onClose_core g socket
  have hsockets : (g.onClose socket).1.sockets = g.sockets.filter (· ≠ socket) := by
    have heq := congrArg Gateway.sockets hcore
    exact heq
  have hcontexts := onClose_contexts g socket
  constructor
  case nodup =>
    rw [hsockets]
    exact h.nodup.filter _
  case byPlayer =>
    intro playerId i
    have howner : (g.onClose socket).1.owner i = some playerId ↔ (i ∈ g.sockets ∧ i ≠ socket) ∧
        (g.contexts.get i).map SocketContext.playerId = some playerId := by
      rw [owner_eq_some, hsockets, hcontexts, List.mem_filter, decide_eq_true_eq]
    rw [howner, byPlayer_onClose h]
    split
    next howner =>
      constructor
      · intro hnone
        cases hnone
      · rintro ⟨⟨hmem, hne⟩, hplayer⟩
        exact absurd (h.single (owner_eq_some.mpr ⟨hmem, hplayer⟩) howner) hne
    next hother =>
      rw [h.byPlayer, owner_eq_some]
      constructor
      · rintro ⟨hmem, hplayer⟩
        refine ⟨⟨hmem, fun heq => hother ?_⟩, hplayer⟩
        rw [← heq]
        exact owner_eq_some.mpr ⟨hmem, hplayer⟩
      · exact fun ⟨⟨hmem, _⟩, hplayer⟩ => ⟨hmem, hplayer⟩
  case contexts =>
    intro i hmem
    rw [hsockets] at hmem
    rw [hcontexts]
    exact h.contexts i (List.mem_filter.mp hmem).1
  case known =>
    intro i hsome
    rw [hcontexts] at hsome
    rw [shut_onClose]
    exact h.known i hsome

end Gateway

namespace Server
variable {R : Type}

/-- The registry is consistent, and a connection that waits for the rate limiter of
its address is the only one to, for a socket that has no context object yet. -/
structure Connecting (s : Server R) : Prop where
  registry : s.gateway.Registry
  fresh : ∀ number socket, s.Limited number socket →
    s.gateway.contexts.get socket = none ∧ (s.gateway.shut socket).isSome
  once : ∀ i j socket, s.Limited i socket → s.Limited j socket → i = j

theorem connecting_empty : Connecting (empty : Server R) := by
  constructor
  case registry => exact Gateway.registry_empty
  case fresh =>
    rintro number socket ⟨call, hget⟩
    cases hget
  case once =>
    rintro i j socket ⟨call, hget⟩
    cases hget

theorem shut_connected (g : Gateway R) (socket i : SocketId) (request : Request) :
    Gateway.shut { g with wires := g.wires.set socket ⟨request, .opened, .early [], false⟩ } i =
      if i = socket then some false else g.shut i := by
  unfold Gateway.shut
  rw [JsMap.get_set]
  split <;> rfl

/-- The close event changes the wire of its socket only. -/
theorem shut_closed (g : Gateway R) (socket i : SocketId) :
    (g.modifyWire socket fun wire => { wire with readyState := .closed }).shut i =
      if i = socket then (g.shut i).map fun _ => true else g.shut i := by
  unfold Gateway.shut
  rw [Gateway.get_modifyWire]
  split
  next =>
    rw [Option.map_map, Option.map_map]
    rfl
  next => rfl

theorem isSome_shut_closed (g : Gateway R) (socket i : SocketId) :
    ((g.modifyWire socket fun wire => { wire with readyState := .closed }).shut i).isSome =
      (g.shut i).isSome := by
  rw [shut_closed]
  split
  next => rw [Option.isSome_map]
  next => rfl

/-- No step forgets a socket. -/
theorem Connects.known {rt : Runtime R} {s t : Server R} {event : ServerEvent}
    (h : Connects rt s t event) {i : SocketId} (hi : (s.gateway.shut i).isSome) :
    (t.gateway.shut i).isSome := by
  cases h with
  | kept same limited => rwa [same.shut]
  | connected unknown gateway limited =>
    rw [gateway, shut_connected]
    split
    next => rfl
    next => exact hi
  | registered pending known authenticated gateway limited =>
    rwa [gateway, Gateway.shut_register]
  | closed known listens wired gateway limited =>
    rwa [gateway, Gateway.shut_onClose, wired, isSome_shut_closed]
  | unheard known deaf gateway limited => rwa [gateway, isSome_shut_closed]

/-- No socket is waiting anew, and those that wait have no context object still. -/
theorem Connecting.keep {rt : Runtime R} {s t : Server R} {event : ServerEvent}
    (h : Connecting s) (hstep : Connects rt s t event) (hregistry : t.gateway.Registry)
    (hlimited : ∀ number socket, t.Limited number socket → s.Limited number socket)
    (hfresh : ∀ number socket, t.Limited number socket → s.gateway.contexts.get socket = none →
      t.gateway.contexts.get socket = none) : Connecting t where
  registry := hregistry
  fresh number socket ht := by
    obtain ⟨hnone, hknown⟩ := h.fresh number socket (hlimited number socket ht)
    exact ⟨hfresh number socket ht hnone, hstep.known hknown⟩
  once i j socket hi hj := h.once i j socket (hlimited i socket hi) (hlimited j socket hj)

theorem Connecting.step {rt : Runtime R} {s t : Server R} {event : ServerEvent}
    (h : Connecting s) (hstep : Connects rt s t event) : Connecting t := by
  have hconnects := hstep
  cases hstep with
  | kept same limited =>
    refine h.keep hconnects (h.registry.same same) limited fun _ socket _ hnone => ?_
    have hsame := same.isSome socket
    rw [hnone] at hsame
    exact Option.not_isSome_iff_eq_none.mp (Bool.eq_false_iff.mp hsame)
  | @connected socket request unknown gateway limited =>
    have hunknown : s.gateway.shut socket = none := by
      unfold Gateway.shut
      rw [unknown]
      rfl
    have hcontexts : t.gateway.contexts = s.gateway.contexts := by rw [gateway]
    -- nobody has waited for a socket that was not there
    have hnew : ∀ number, ¬s.Limited number socket := by
      intro number hlimited
      have hknown := (h.fresh number socket hlimited).2
      rw [hunknown] at hknown
      cases hknown
    constructor
    case registry =>
      refine h.registry.wires ?_ fun i => hconnects.known
      rw [gateway]
      rfl
    case fresh =>
      intro number i ht
      rw [hcontexts]
      rcases limited number i ht with ⟨-, rfl⟩ | ⟨-, hs⟩
      · constructor
        · by_contra hsome
          have hknown := h.registry.known i (Option.isSome_iff_ne_none.mpr hsome)
          rw [hunknown] at hknown
          cases hknown
        · rw [gateway, shut_connected, if_pos rfl]
          rfl
      · exact ⟨(h.fresh number i hs).1, hconnects.known (h.fresh number i hs).2⟩
    case once =>
      intro i j other hi hj
      rcases limited i other hi with ⟨hi', rfl⟩ | ⟨-, hi'⟩ <;>
        rcases limited j _ hj with ⟨hj', hsame⟩ | ⟨-, hj'⟩
      · exact hi'.trans hj'.symm
      · exact absurd hj' (hnew j)
      · rw [hsame] at hi'
        exact absurd hi' (hnew i)
      · exact h.once i j other hi' hj'
  | @registered number now uuid socket wire payload pending known authenticated gateway limited =>
    obtain ⟨hfresh, hknown⟩ := h.fresh number socket pending
    refine h.keep hconnects ?_ (fun i other ht => (limited i other ht).2) fun i other ht hnone => ?_
    · rw [gateway]
      exact h.registry.register hfresh hknown
    · -- the handler that registers was the only one to wait for the socket
      obtain ⟨hne, hs⟩ := limited i other ht
      rw [gateway, Gateway.contexts_register, if_neg]
      · exact hnone
      · rintro rfl
        exact hne (h.once i number other hs pending)
  | @closed socket wire g known listens wired gateway limited =>
    have hg : g.Registry := by
      rw [wired]
      refine h.registry.wires (Gateway.core_modifyWire _ _ _) fun i hsome => ?_
      rwa [isSome_shut_closed]
    refine h.keep hconnects ?_ limited fun _ i _ hnone => ?_
    · rw [gateway]
      exact hg.onClose socket
    · rw [gateway, Gateway.onClose_contexts, wired, Gateway.modifyWire_contexts]
      exact hnone
  | unheard known deaf gateway limited =>
    refine h.keep hconnects ?_ limited fun _ i _ hnone => ?_
    · rw [gateway]
      refine h.registry.wires (Gateway.core_modifyWire _ _ _) fun i hsome => ?_
      rwa [isSome_shut_closed]
    · rw [gateway, Gateway.modifyWire_contexts]
      exact hnone

/-- The routes touch sessions only. -/
theorem Connecting.withSessions {s : Server R} (h : s.Connecting)
    (sessions : GameSessionManager R) : (s.withSessions sessions).Connecting where
  registry := ⟨h.registry.nodup, h.registry.byPlayer, h.registry.contexts, h.registry.known⟩
  fresh := h.fresh
  once := h.once

variable [Field R] [LinearOrder R] [JsMath R]

/-- Every run of the server keeps the registry consistent. -/
theorem connecting_along (env : Env R) (rt : Runtime R) (events : List ServerEvent) :
    (machine env rt).Along Connecting empty events :=
  Machine.along_of_invariant (fun _ _ _ h hstep => h.step (moves hstep).connects) events
    connecting_empty

end Server
end RealtimeGameServer.Source
