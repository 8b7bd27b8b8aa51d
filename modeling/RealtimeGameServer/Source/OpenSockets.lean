import RealtimeGameServer.Source.SentMessages
import RealtimeGameServer.Source.Registry

/-!
# Only open sockets are sent anything

Source: `send` and `broadcast` of infrastructure/websocket/gateway.ts:353-367, the only
callers of `socket.send`, and the calls of `socket.close`. `Reaches` holds of every
stretch of the gateway's handlers: no known socket opens again, and what is sent goes to
sockets that are open.
-/
namespace RealtimeGameServer.Source
open Lib

namespace Gateway
variable {R : Type}

/-- From `g` to `g'` no socket opens, and only open sockets have been sent anything. -/
structure Reaches (g g' : Gateway R) : Prop where
  opened : ∀ i, g'.readyState i = .opened → g.readyState i = .opened
  sent : ∃ new, g'.sent = g.sent ++ new ∧ ∀ e ∈ new, g.readyState e.1 = .opened

theorem Reaches.silent {g g' : Gateway R} (hsent : g'.sent = g.sent) (hwires : g'.wires = g.wires) :
    Reaches g g' where
  opened i hi := by
    unfold readyState at hi ⊢
    rwa [hwires] at hi
  sent := ⟨[], hsent.trans (List.append_nil _).symm, fun e he => by cases he⟩

theorem Reaches.refl (g : Gateway R) : Reaches g g := .silent rfl rfl

theorem Reaches.trans {g g' g'' : Gateway R} (h : Reaches g g') (h' : Reaches g' g'') :
    Reaches g g'' where
  opened i hi := h.opened i (h'.opened i hi)
  sent := by
    obtain ⟨first, hfirst, hin⟩ := h.sent
    obtain ⟨later, hlater, hin'⟩ := h'.sent
    refine ⟨first ++ later, ?_, fun e he => ?_⟩
    · rw [hlater, hfirst, List.append_assoc]
    · rcases List.mem_append.mp he with he | he
      · exact hin e he
      · exact h.opened e.1 (hin' e he)

/-- A socket that is not open is sent nothing. -/
theorem Reaches.sentTo {g g' : Gateway R} (h : Reaches g g') {socket : SocketId}
    (hshut : g.readyState socket ≠ .opened) : sentTo g'.sent socket = sentTo g.sent socket := by
  obtain ⟨new, hnew, hopen⟩ := h.sent
  have hnone : Source.sentTo new socket = [] := by
    refine List.eq_nil_iff_forall_not_mem.mpr fun message hmem => ?_
    exact hshut (hopen _ (mem_sentTo.mp hmem))
  rw [hnew, sentTo_append, hnone, List.append_nil]

theorem reaches_modifyWire (g : Gateway R) (socket : SocketId) {f : Wire → Wire}
    (hf : ∀ wire, (f wire).readyState = .opened → wire.readyState = .opened) :
    Reaches g (g.modifyWire socket f) where
  opened := (sendsNoWorld_modifyWire g socket hf).opened
  sent := by
    refine ⟨[], ?_, fun e he => by cases he⟩
    rw [List.append_nil]
    unfold modifyWire
    split <;> rfl

theorem reaches_closeSocket (g : Gateway R) (socket : SocketId) :
    Reaches g (g.closeSocket socket) := by
  refine reaches_modifyWire g socket fun wire => ?_
  split
  next => exact fun h => by cases h
  next => exact id

theorem reaches_offEarly (g : Gateway R) (socket : SocketId) : Reaches g (g.offEarly socket) := by
  refine reaches_modifyWire g socket fun wire => ?_
  split <;> exact id

theorem reaches_closed (g : Gateway R) (socket : SocketId) :
    Reaches g (g.modifyWire socket fun wire => { wire with readyState := .closed }) :=
  reaches_modifyWire g socket fun _ h => by cases h

theorem reaches_send (g : Gateway R) (socket : SocketId) (message : ServerMessage R) :
    Reaches g (g.send socket message) where
  opened i hi := by rwa [readyState_send] at hi
  sent := by
    refine ⟨_, sent_send g socket message, fun e he => ?_⟩
    split at he
    next hopen =>
      rw [List.mem_singleton.mp he]
      exact hopen
    next => cases he

theorem reaches_refuse (g : Gateway R) (socket : SocketId) :
    Reaches g (g.refuseConnection socket) :=
  ((reaches_offEarly g socket).trans (reaches_send _ _ _)).trans (reaches_closeSocket _ socket)

theorem reaches_register (g : Gateway R) (socket : SocketId) (payload : AccessTokenPayload) :
    Reaches g (g.register socket payload) := by
  have hreplaced : Reaches g (g.replaceExistingSocket payload.playerId) := by
    unfold replaceExistingSocket
    split
    next => exact .refl g
    next existing _ => exact (reaches_closeSocket g existing).trans (.silent rfl rfl)
  exact hreplaced.trans (.silent rfl rfl)

theorem reaches_onClose (g : Gateway R) (socket : SocketId) : Reaches g (g.onClose socket).1 := by
  unfold onClose
  split
  next => exact .silent rfl rfl
  next =>
    dsimp only
    split <;> split <;> exact .silent rfl rfl

theorem reaches_foldl_close (sockets : List SocketId) (g : Gateway R) :
    Reaches g (sockets.foldl closeSocket g) :=
  List.foldlRecOn (motive := fun after => Reaches g after) sockets _ (.refl g)
    fun after hafter socket _ => hafter.trans (reaches_closeSocket after socket)

theorem readyState_closeSocket_self (g : Gateway R) (socket : SocketId) :
    (g.closeSocket socket).readyState socket ≠ .opened := by
  unfold closeSocket readyState
  rw [get_modifyWire, if_pos rfl, Option.map_map]
  cases g.wires.get socket with
  | none => exact fun h => by cases h
  | some wire =>
    simp only [Option.map_some, Option.getD_some, Function.comp_apply]
    split
    next => exact fun h => by cases h
    next hne => exact hne

/-- After the loop of `close` none of its sockets is open. -/
theorem readyState_foldl_close {sockets : List SocketId} {socket : SocketId}
    (h : socket ∈ sockets) (g : Gateway R) :
    (sockets.foldl closeSocket g).readyState socket ≠ .opened := by
  induction sockets generalizing g with
  | nil => cases h
  | cons i rest ih =>
    rw [List.foldl_cons]
    rcases List.mem_cons.mp h with rfl | hrest
    · intro hopen
      exact readyState_closeSocket_self g socket ((reaches_foldl_close rest _).opened socket hopen)
    · exact ih hrest _

variable [Field R] [LinearOrder R] [JsMath R]

omit [JsMath R] in
theorem reaches_onMessage (env : Env R) (g : Gateway R) (socket : SocketId) (raw : String) :
    Reaches g (g.onMessage env socket raw).1 := by
  unfold onMessage
  split
  next => exact .refl g
  next =>
    split
    next => exact reaches_send g socket _
    next => exact .refl g

omit [JsMath R] in
theorem reaches_drain (env : Env R) (g : Gateway R) (socket : SocketId)
    (messages : List String) : Reaches g (g.drainEarly env socket messages).1 := by
  cases messages with
  | nil => exact .refl g
  | cons raw rest =>
    have hmessage := reaches_onMessage env g socket raw
    simp only [drainEarly]
    split <;> rename_i heq <;> rw [heq] at hmessage
    next => exact hmessage
    next => exact hmessage.trans (reaches_refuse _ socket)
    next => exact hmessage

omit [Field R] [LinearOrder R] [JsMath R] in
theorem reaches_joinSession (g : Gateway R) (now : Int) (socket : SocketId) (ctx : SocketContext)
    (roomId : String) (reconnectToken : Option String) :
    Reaches g (g.joinSession now socket ctx roomId reconnectToken).1 := by
  unfold joinSession
  dsimp only
  split
  next => exact .silent rfl rfl
  next =>
    split
    next =>
      refine Reaches.trans ?_ (reaches_send _ _ _)
      exact .silent rfl rfl
    next => exact .silent rfl rfl

theorem reaches_dispatch (g : Gateway R) (now : Int) (socket : SocketId) (ctx : SocketContext)
    (message : ClientMessage R) : Reaches g (g.dispatch now socket ctx message).1 := by
  cases message with
  | joinSession roomId token => exact reaches_joinSession g now socket ctx roomId token
  | input input =>
    simp only [dispatch, dispatchInput]
    split
    next => exact reaches_send g socket _
    next =>
      split
      next => exact .refl g
      next =>
        split
        next => exact .refl g
        next =>
          split
          next =>
            refine Reaches.trans ?_ (reaches_send _ _ _)
            exact .silent rfl rfl
          next => exact .silent rfl rfl
  | ping clientTime =>
    simp only [dispatch, dispatchPing]
    refine Reaches.trans ?_ (reaches_send _ _ _)
    split
    next => exact .refl g
    next => exact .silent rfl rfl
  | heartbeat =>
    simp only [dispatch, dispatchHeartbeat]
    split
    next => exact .refl g
    next => exact .silent rfl rfl
  | requestSnapshot =>
    simp only [dispatch, dispatchSnapshot]
    split
    next => exact .refl g
    next =>
      split
      next => exact .refl g
      next => exact reaches_send g socket _

omit [LinearOrder R] in
theorem reaches_joinSessionRoom (g : Gateway R) (now : Int) (uuid : String) (socket : SocketId)
    (ctx : SocketContext) (roomId : String) (found : Option RoomEntity) :
    Reaches g (g.joinSessionRoom now uuid socket ctx roomId found).1 := by
  unfold joinSessionRoom
  split
  next => exact .refl g
  next =>
    split
    next => exact reaches_send g socket _
    next =>
      split
      next => exact reaches_send g socket _
      next =>
        have henter : Reaches g (g.enter now uuid socket ctx roomId) := by
          unfold enter issueReconnectToken modifyContext subscribe
          dsimp only
          split <;> split <;> exact .silent rfl rfl
        exact henter

theorem reaches_frame {rt : Runtime R} {g : Gateway R} {now : Int} {uuid : String}
    {socket : SocketId} {ctx : SocketContext} {pc : FramePc} {answer : Answer}
    {result : Gateway R × Outcome FramePc}
    (h : g.resumeFrame rt now uuid socket ctx pc answer = some result) : Reaches g result.1 := by
  unfold resumeFrame at h
  split at h <;> cases h
  next => exact .refl g
  next raw allowed =>
    unfold onMessageLimited
    repeat' split
    all_goals first
      | exact reaches_dispatch _ _ _ _ _
      | exact reaches_send _ _ _
  next roomId found => exact reaches_joinSessionRoom g now uuid socket ctx roomId found
  next roomId session token =>
    unfold joinSessionOnline
    split
    next => exact .refl g
    next => exact (reaches_send g socket _).trans (reaches_send _ _ _)
  next => exact reaches_send g socket _

theorem ConnectionRuns.reaches {env : Env R} {rt : Runtime R} {g : Gateway R} {now : Int}
    {uuid : String} {socket : SocketId} {wire : Wire} {pc : ConnectionPc} {answer : Answer}
    {result : Gateway R × Outcome ConnectionPc}
    (h : ConnectionRuns env rt g now uuid socket wire pc answer result) : Reaches g result.1 := by
  cases h with
  | limited => exact (reaches_offEarly g socket).trans (reaches_closeSocket _ socket)
  | @registered payload => exact reaches_register g socket payload
  | listening =>
    have hattached : Reaches g (g.modifyWire socket fun wire =>
        { wire with listening := .live, closeListener := true }) :=
      reaches_modifyWire g socket fun _ h => h
    exact hattached.trans (reaches_drain env _ socket _)
  | @early rest framePc answer ctx after context ran =>
    have hframe := reaches_frame ran
    obtain ⟨after, outcome⟩ := after
    cases outcome with
    | rejected reason => exact hframe.trans (reaches_refuse after socket)
    | _ => exact hframe
  | drained => exact reaches_drain env g socket _
  | _ => exact reaches_refuse g socket

theorem reaches_tick (env : Env R) (g : Gateway R) (now : Int) (session : SessionId)
    (object : SessionObject R) : Reaches g (g.tick env now session object) := by
  rw [tick_eq]
  refine ⟨fun _ hi => hi, _, rfl, ?_⟩
  rintro ⟨socket, message⟩ he
  obtain ⟨-, -, -, roomId, -, hhears⟩ := mem_deliveries.mp he
  obtain ⟨-, -, -, hopen⟩ := hears_iff.mp hhears
  exact hopen

end Gateway

namespace Server
variable {R : Type} [Field R] [LinearOrder R] [JsMath R]

/-- Every event but a connection reaches open sockets only. -/
theorem Moves.reaches {env : Env R} {rt : Runtime R} {s t : Server R} {event : ServerEvent}
    (h : Moves env rt s t event) :
    (∃ socket request, event = .connect socket request ∧ s.gateway.wires.get socket = none ∧
      t.gateway = { s.gateway with
        wires := s.gateway.wires.set socket ⟨request, .opened, .early [], false⟩ }) ∨
    s.gateway.Reaches t.gateway := by
  cases h with
  | @connected socket request call unknown gateway goes =>
    exact Or.inl ⟨socket, request, rfl, unknown, gateway⟩
  | buffered gateway handlers =>
    rw [gateway]
    exact Or.inr (Gateway.reaches_modifyWire _ _ fun _ h => h)
  | received gateway goes =>
    rw [gateway]
    exact Or.inr (Gateway.reaches_onMessage env _ _ _)
  | ignored same =>
    rw [same]
    exact Or.inr (.refl _)
  | frame handler context ran gateway goes =>
    rw [gateway]
    exact Or.inr (Gateway.reaches_frame ran)
  | connection handler known ran gateway goes =>
    rw [gateway]
    exact Or.inr ran.reaches
  | offline handler gateway goes =>
    rw [gateway]
    exact Or.inr (.refl _)
  | @closed socket wire g known listens wired gateway goes =>
    rw [gateway, wired]
    exact Or.inr ((Gateway.reaches_closed _ socket).trans (Gateway.reaches_onClose _ socket))
  | unheard known deaf gateway handlers =>
    rw [gateway]
    exact Or.inr (Gateway.reaches_closed _ _)
  | ticked current running gateway handlers =>
    rw [gateway]
    exact Or.inr (Gateway.reaches_tick env _ _ _ _)
  | destroyed gateway handlers =>
    rw [gateway]
    exact Or.inr (.silent rfl rfl)
  | shutDown gateway handlers =>
    rw [gateway]
    exact Or.inr ((Gateway.reaches_foldl_close _ _).trans (.silent rfl rfl))

/-- A socket that has connected and is not open stays so, and is sent nothing. -/
theorem Moves.stays_shut {env : Env R} {rt : Runtime R} {s t : Server R} {event : ServerEvent}
    (h : Moves env rt s t event) {socket : SocketId} (hknown : (s.gateway.shut socket).isSome)
    (hshut : s.gateway.readyState socket ≠ .opened) :
    (t.gateway.shut socket).isSome ∧ t.gateway.readyState socket ≠ .opened ∧
      sentTo t.gateway.sent socket = sentTo s.gateway.sent socket := by
  refine ⟨h.connects.known hknown, ?_⟩
  rcases h.reaches with ⟨i, request, -, hunknown, hgateway⟩ | hreaches
  · have hne : socket ≠ i := by
      rintro rfl
      rw [Gateway.shut, hunknown] at hknown
      cases hknown
    rw [hgateway]
    refine ⟨fun hopen => hshut ?_, rfl⟩
    unfold Gateway.readyState at hopen ⊢
    rwa [JsMap.get_set_of_ne _ hne] at hopen
  · exact ⟨fun hopen => hshut (hreaches.opened socket hopen), hreaches.sentTo hshut⟩

end Server
end RealtimeGameServer.Source
