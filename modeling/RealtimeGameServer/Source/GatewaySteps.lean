import RealtimeGameServer.Source.GatewayServer

/-!
# What the stretches of a frame's handler can do

`FrameEnds` lists how a stretch can end: how it rejects, which call it awaits next
and how many are left. Beside it stand which answers a call takes, that no stretch
of the gateway forgets a context object, and that no frame touches a wire.
-/
namespace RealtimeGameServer.Source
open Lib

/-- The answers a call can resolve to. -/
def ExternalCall.Expects : ExternalCall → Answer → Prop
  | .consume _ _ _, .limit _ => True
  | .findById _, .room _ => True
  | .setOnline _ _, .done => True
  | .heartbeat _ _, .done => True
  | .setOffline _, .done => True
  | .settled, .done => True
  | _, _ => False

/-- The call a place of `onMessage` waits for. -/
def FramePc.Awaits : FramePc → ExternalCall → Prop
  | .rateLimited _, .consume _ _ _ => True
  | .roomLookup _, .findById _ => True
  | .joinOnline _ _ _, .setOnline _ _ => True
  | .presenceHeartbeat, .heartbeat _ _ => True
  | _, _ => False

/-- The number of awaits `onMessage` has left at most. -/
def FramePc.awaitsLeft : FramePc → Nat
  | .rateLimited _ => 3
  | .roomLookup _ => 2
  | .joinOnline _ _ _ => 1
  | .presenceHeartbeat => 1

namespace Gateway
variable {R : Type}

/-- Context objects are made and changed but never forgotten. -/
def KeepsContexts (g g' : Gateway R) : Prop :=
  ∀ socket, (g.contexts.get socket).isSome → (g'.contexts.get socket).isSome

theorem KeepsContexts.of_eq {g g' : Gateway R} (h : g'.contexts = g.contexts) :
    KeepsContexts g g' := by
  intro socket hsome
  rwa [h]

@[simp] theorem modifyWire_contexts (g : Gateway R) (socket : SocketId) (f : Wire → Wire) :
    (g.modifyWire socket f).contexts = g.contexts := by
  unfold modifyWire
  split <;> rfl

@[simp] theorem closeSocket_contexts (g : Gateway R) (socket : SocketId) :
    (g.closeSocket socket).contexts = g.contexts := modifyWire_contexts g socket _

@[simp] theorem offEarly_contexts (g : Gateway R) (socket : SocketId) :
    (g.offEarly socket).contexts = g.contexts := modifyWire_contexts g socket _

@[simp] theorem send_contexts (g : Gateway R) (socket : SocketId) (message : ServerMessage R) :
    (g.send socket message).contexts = g.contexts := by
  unfold send
  split <;> rfl

@[simp] theorem sendError_contexts (g : Gateway R) (socket : SocketId) (code message : String) :
    (g.sendError socket code message).contexts = g.contexts := send_contexts g socket _

@[simp] theorem refuseConnection_contexts (g : Gateway R) (socket : SocketId) :
    (g.refuseConnection socket).contexts = g.contexts := by
  simp [refuseConnection]

@[simp] theorem replaceExistingSocket_contexts (g : Gateway R) (playerId : String) :
    (g.replaceExistingSocket playerId).contexts = g.contexts := by
  unfold replaceExistingSocket
  split <;> simp

theorem foldl_contexts {α : Type} (f : Gateway R → α → Gateway R)
    (h : ∀ g a, (f g a).contexts = g.contexts) (l : List α) (g : Gateway R) :
    (l.foldl f g).contexts = g.contexts := by
  induction l generalizing g with
  | nil => rfl
  | cons a rest ih => rw [List.foldl_cons, ih, h]

@[simp] theorem broadcast_contexts (g : Gateway R) (roomId : String) (message : ServerMessage R) :
    (g.broadcast roomId message).contexts = g.contexts := by
  refine foldl_contexts _ (fun g socket => ?_) _ _
  split
  next => rfl
  next => split <;> simp

theorem modifyContext_keeps (g : Gateway R) (socket : SocketId)
    (f : SocketContext → SocketContext) : KeepsContexts g (g.modifyContext socket f) := by
  intro j hj
  unfold modifyContext
  split
  next => exact hj
  next =>
    simp only [JsMap.get_set]
    split
    next => rfl
    next => exact hj

theorem register_keeps (g : Gateway R) (socket : SocketId) (payload : AccessTokenPayload) :
    KeepsContexts g (g.register socket payload) := by
  intro j hj
  simp only [register, replaceExistingSocket_contexts, JsMap.get_set]
  split
  next => rfl
  next => exact hj

@[simp] theorem modifyWire_registered (g : Gateway R) (socket i : SocketId) (f : Wire → Wire) :
    (g.modifyWire socket f).registered i = g.registered i := by
  unfold modifyWire
  split <;> rfl

theorem get_modifyWire (g : Gateway R) (socket i : SocketId) (f : Wire → Wire) :
    (g.modifyWire socket f).wires.get i =
      if i = socket then (g.wires.get i).map f else g.wires.get i := by
  unfold modifyWire
  split
  next hget =>
    split
    next heq => rw [heq, hget, Option.map_none]
    next => rfl
  next wire hget =>
    rw [JsMap.get_set]
    split
    next heq => rw [heq, hget, Option.map_some]
    next => rfl

/-- Closing a socket leaves its listeners attached. -/
theorem closeSocket_listening (g : Gateway R) (socket i : SocketId) :
    ((g.closeSocket socket).wires.get i).map Wire.listening =
      (g.wires.get i).map Wire.listening := by
  rw [closeSocket, get_modifyWire]
  split
  next =>
    rw [Option.map_map]
    congr 1
    funext wire
    simp only [Function.comp_apply]
    split <;> rfl
  next => rfl

@[simp] theorem send_wires (g : Gateway R) (socket : SocketId) (message : ServerMessage R) :
    (g.send socket message).wires = g.wires := by
  unfold send
  split <;> rfl

@[simp] theorem sendError_wires (g : Gateway R) (socket : SocketId) (code message : String) :
    (g.sendError socket code message).wires = g.wires := send_wires g socket _

theorem offEarly_listening {g : Gateway R} {socket : SocketId} {buffer : List String}
    (h : (g.wires.get socket).map Wire.listening = some (.early buffer)) :
    ((g.offEarly socket).wires.get socket).map Wire.listening = some .off := by
  obtain ⟨wire, hwire, hlistening⟩ := Option.map_eq_some_iff.mp h
  rw [offEarly, get_modifyWire, if_pos rfl, hwire, Option.map_some, Option.map_some,
    hlistening]

theorem refuseConnection_listening {g : Gateway R} {socket : SocketId} {buffer : List String}
    (h : (g.wires.get socket).map Wire.listening = some (.early buffer)) :
    ((g.refuseConnection socket).wires.get socket).map Wire.listening = some .off := by
  rw [refuseConnection, closeSocket_listening, sendError_wires]
  exact offEarly_listening h

theorem register_listening (g : Gateway R) (socket : SocketId) (payload : AccessTokenPayload) :
    ((g.register socket payload).wires.get socket).map Wire.listening =
      (g.wires.get socket).map Wire.listening := by
  unfold register replaceExistingSocket
  dsimp only
  split
  next => rfl
  next => exact closeSocket_listening g _ socket

theorem register_registered (g : Gateway R) (socket : SocketId) (payload : AccessTokenPayload) :
    ((g.register socket payload).registered socket).isSome := by
  have hmem : socket ∈ (g.register socket payload).sockets :=
    List.mem_append_right _ (List.mem_singleton_self socket)
  rw [registered, if_pos hmem, register, JsMap.get_set_self]
  rfl

@[simp] theorem modifyContext_wires (g : Gateway R) (socket : SocketId)
    (f : SocketContext → SocketContext) : (g.modifyContext socket f).wires = g.wires := by
  unfold modifyContext
  split <;> rfl

@[simp] theorem subscribe_wires (g : Gateway R) (roomId : String) (session : SessionId) :
    (g.subscribe roomId session).wires = g.wires := by
  unfold subscribe
  split <;> rfl

variable [Field R] [LinearOrder R] [JsMath R]

/-- The wires, the context objects and the registered sockets stay as they are. -/
structure KeepsSockets (g g' : Gateway R) : Prop where
  wires : g'.wires = g.wires
  contexts : g'.contexts = g.contexts
  sockets : g'.sockets = g.sockets

section Replies
omit [Field R] [LinearOrder R] [JsMath R]

theorem KeepsSockets.refl (g : Gateway R) : KeepsSockets g g := ⟨rfl, rfl, rfl⟩

theorem KeepsSockets.send {g g' : Gateway R} (h : KeepsSockets g g') (socket : SocketId)
    (message : ServerMessage R) : KeepsSockets g (g'.send socket message) := by
  unfold Gateway.send
  split
  next => exact ⟨h.wires, h.contexts, h.sockets⟩
  next => exact h

theorem KeepsSockets.sendError {g g' : Gateway R} (h : KeepsSockets g g') (socket : SocketId)
    (code message : String) : KeepsSockets g (g'.sendError socket code message) :=
  h.send socket _

theorem keepsSockets_joinSession (g : Gateway R) (now : Int) (socket : SocketId)
    (ctx : SocketContext) (roomId : String) (token : Option String) :
    KeepsSockets g (g.joinSession now socket ctx roomId token).1 := by
  unfold joinSession
  dsimp only
  split
  next => exact ⟨rfl, rfl, rfl⟩
  next =>
    split
    next =>
      apply KeepsSockets.sendError
      exact ⟨rfl, rfl, rfl⟩
    next => exact ⟨rfl, rfl, rfl⟩

end Replies

omit [JsMath R] in
theorem keepsSockets_onMessage (env : Env R) (g : Gateway R) (socket : SocketId) (raw : String) :
    KeepsSockets g (g.onMessage env socket raw).1 := by
  unfold onMessage
  split
  next => exact .refl g
  next =>
    split
    next => exact .sendError (.refl g) _ _ _
    next => exact .refl g

theorem keepsSockets_dispatch (g : Gateway R) (now : Int) (socket : SocketId)
    (ctx : SocketContext) (message : ClientMessage R) :
    KeepsSockets g (g.dispatch now socket ctx message).1 := by
  cases message with
  | joinSession roomId token => exact keepsSockets_joinSession g now socket ctx roomId token
  | input input =>
    simp only [dispatch, dispatchInput]
    split
    next => exact .sendError (.refl g) _ _ _
    next =>
      split
      next => exact .refl g
      next =>
        split
        next => exact .refl g
        next =>
          split
          next =>
            apply KeepsSockets.send
            exact ⟨rfl, rfl, rfl⟩
          next => exact ⟨rfl, rfl, rfl⟩
  | ping clientTime =>
    simp only [dispatch, dispatchPing]
    split
    next => exact .send (.refl g) _ _
    next =>
      apply KeepsSockets.send
      exact ⟨rfl, rfl, rfl⟩
  | heartbeat =>
    simp only [dispatch, dispatchHeartbeat]
    split <;> exact ⟨rfl, rfl, rfl⟩
  | requestSnapshot =>
    simp only [dispatch, dispatchSnapshot]
    split
    next => exact .refl g
    next =>
      split
      next => exact .refl g
      next => exact .send (.refl g) _ _

theorem keepsSockets_onMessageLimited (rt : Runtime R) (g : Gateway R) (now : Int)
    (socket : SocketId) (ctx : SocketContext) (raw : String) (allowed : Bool) :
    KeepsSockets g (g.onMessageLimited rt now socket ctx raw allowed).1 := by
  unfold onMessageLimited
  split
  next => exact .sendError (.refl g) _ _ _
  next =>
    split
    next => exact .sendError (.refl g) _ _ _
    next =>
      split
      next => exact .sendError (.refl g) _ _ _
      next => exact keepsSockets_dispatch g now socket ctx _

omit [LinearOrder R] in
theorem joinSessionRoom_keeps (g : Gateway R) (now : Int) (uuid : String) (socket : SocketId)
    (ctx : SocketContext) (roomId : String) (found : Option RoomEntity) :
    KeepsContexts g (g.joinSessionRoom now uuid socket ctx roomId found).1 := by
  unfold joinSessionRoom
  split
  next => exact .of_eq rfl
  next =>
    split
    next => exact .of_eq (sendError_contexts _ _ _ _)
    next =>
      split
      next => exact .of_eq (sendError_contexts _ _ _ _)
      next =>
        intro j hj
        refine modifyContext_keeps _ _ _ j ?_
        simp only [subscribe]
        split <;> exact hj

omit [JsMath R] in
theorem onMessage_outcome (env : Env R) (g : Gateway R) (socket : SocketId) (raw : String) :
    (g.onMessage env socket raw).2 = .settled ∨
    ∃ ctx call, g.contexts.get socket = some ctx ∧ FramePc.Awaits (.rateLimited raw) call ∧
      (g.onMessage env socket raw).2 = .awaiting (.rateLimited raw) call := by
  unfold onMessage
  split
  next => exact Or.inl rfl
  next ctx hctx =>
    have hget : g.contexts.get socket = some ctx := by
      unfold registered at hctx
      split at hctx
      next => exact hctx
      next => cases hctx
    split
    next => exact Or.inl rfl
    next => exact Or.inr ⟨ctx, .consume _ _ _, hget, trivial, rfl⟩

/-- After the rate limiter a frame waits for the lobby, for the presence call or
for nothing. -/
theorem onMessageLimited_outcome (rt : Runtime R) (g : Gateway R) (now : Int) (socket : SocketId)
    (ctx : SocketContext) (raw : String) (allowed : Bool) :
    (g.onMessageLimited rt now socket ctx raw allowed).2 = .settled ∨
    ∃ pc call, pc.Awaits call ∧ pc.awaitsLeft ≤ 2 ∧
      (g.onMessageLimited rt now socket ctx raw allowed).2 = .awaiting pc call := by
  unfold onMessageLimited
  split
  next => exact Or.inl rfl
  next =>
    split
    next => exact Or.inl rfl
    next =>
      split
      next => exact Or.inl rfl
      next message _ =>
        cases message with
        | joinSession roomId token =>
          simp only [dispatch, joinSession]
          split
          next => exact Or.inr ⟨.roomLookup roomId, .findById _, trivial, le_rfl, rfl⟩
          next =>
            split
            next => exact Or.inl rfl
            next => exact Or.inr ⟨.roomLookup roomId, .findById _, trivial, le_rfl, rfl⟩
        | heartbeat =>
          exact Or.inr ⟨.presenceHeartbeat, .heartbeat _ _, trivial, Nat.le_succ 1, rfl⟩
        | _ => exact Or.inl rfl

omit [LinearOrder R] in
/-- The lobby's answer rejects the handler exactly when there is no such room. -/
theorem joinSessionRoom_outcome (g : Gateway R) (now : Int) (uuid : String) (socket : SocketId)
    (ctx : SocketContext) (roomId : String) (found : Option RoomEntity) :
    (found = none ∧ (g.joinSessionRoom now uuid socket ctx roomId found).2 =
      .rejected (.app (.notFound "Room"))) ∨
    (found ≠ none ∧ ((g.joinSessionRoom now uuid socket ctx roomId found).2 = .settled ∨
      ∃ session call, FramePc.Awaits (.joinOnline roomId session uuid) call ∧
        (g.joinSessionRoom now uuid socket ctx roomId found).2 =
          .awaiting (.joinOnline roomId session uuid) call)) := by
  cases found with
  | none => exact Or.inl ⟨rfl, rfl⟩
  | some room =>
    refine Or.inr ⟨nofun, ?_⟩
    simp only [joinSessionRoom, getRoom]
    split
    next => exact Or.inl rfl
    next =>
      split
      next => exact Or.inl rfl
      next => exact Or.inr ⟨_, .setOnline _ _, trivial, rfl⟩

/-- How a stretch of a frame's handler ends: a failed call rejects it, and so does
a lobby lookup that finds no room; otherwise it settles or awaits a call nearer
to its end. -/
inductive FrameEnds (pc : FramePc) (answer : Answer) : Outcome FramePc → Prop where
  | callFailed (failed : answer = .failed) : FrameEnds pc answer (.rejected .external)
  | roomAbsent {roomId : String} (place : pc = .roomLookup roomId) (absent : answer = .room none) :
      FrameEnds pc answer (.rejected (.app (.notFound "Room")))
  | settled (answered : answer ≠ .failed) (present : answer ≠ .room none) :
      FrameEnds pc answer .settled
  | awaits {next : FramePc} {call : ExternalCall} (answered : answer ≠ .failed)
      (present : answer ≠ .room none) (awaited : next.Awaits call)
      (fewer : next.awaitsLeft < pc.awaitsLeft) : FrameEnds pc answer (.awaiting next call)

/-- Everything one stretch of a frame's handler can do. -/
theorem resumeFrame_ends {rt : Runtime R} {g g' : Gateway R} {now : Int} {uuid : String}
    {socket : SocketId} {ctx : SocketContext} {pc : FramePc} {answer : Answer}
    {outcome : Outcome FramePc}
    (h : g.resumeFrame rt now uuid socket ctx pc answer = some (g', outcome)) :
    KeepsContexts g g' ∧ FrameEnds pc answer outcome := by
  unfold resumeFrame at h
  split at h
  next =>
    cases h
    exact ⟨.of_eq rfl, .callFailed rfl⟩
  next raw allowed =>
    have hout := onMessageLimited_outcome rt g now socket ctx raw allowed
    have hkeep := (keepsSockets_onMessageLimited rt g now socket ctx raw allowed).contexts
    rw [Option.some.inj h] at hout hkeep
    constructor
    · exact .of_eq hkeep
    · rcases hout with rfl | ⟨next, call, hawaits, hleft, rfl⟩
      · exact .settled nofun nofun
      · exact .awaits nofun nofun hawaits (Nat.lt_succ_of_le hleft)
  next roomId found =>
    have hkeep := joinSessionRoom_keeps g now uuid socket ctx roomId found
    have hout := joinSessionRoom_outcome g now uuid socket ctx roomId found
    rw [Option.some.inj h] at hout hkeep
    constructor
    · exact hkeep
    · rcases hout with ⟨rfl, rfl⟩ | ⟨hfound, hout⟩
      · exact .roomAbsent rfl rfl
      · have hpresent : Answer.room found ≠ .room none := by
          intro hnone
          exact hfound (Answer.room.inj hnone)
        rcases hout with rfl | ⟨session, call, hawaits, rfl⟩
        · exact .settled nofun hpresent
        · exact .awaits nofun hpresent hawaits Nat.one_lt_two
  next roomId session token =>
    obtain ⟨rfl, rfl⟩ := Prod.mk.inj (Option.some.inj h)
    constructor
    · apply KeepsContexts.of_eq
      unfold joinSessionOnline
      split <;> simp
    · exact .settled nofun nofun
  next =>
    obtain ⟨rfl, rfl⟩ := Prod.mk.inj (Option.some.inj h)
    exact ⟨.of_eq (send_contexts _ _ _), .settled nofun nofun⟩
  next => cases h

/-- An answer of the kind the call expects is taken. -/
theorem resumeFrame_isSome (rt : Runtime R) (g : Gateway R) (now : Int) (uuid : String)
    (socket : SocketId) (ctx : SocketContext) {pc : FramePc} {call : ExternalCall} {answer : Answer}
    (hpc : pc.Awaits call) (hanswer : call.Expects answer) :
    (g.resumeFrame rt now uuid socket ctx pc answer).isSome := by
  cases pc <;> cases call <;> cases answer <;>
    first | rfl | exact hpc.elim | exact hanswer.elim

/-- No stretch of a frame's handler closes a socket or touches its listeners. -/
theorem resumeFrame_wires {rt : Runtime R} {g : Gateway R} {now : Int} {uuid : String}
    {socket : SocketId} {ctx : SocketContext} {pc : FramePc} {answer : Answer}
    {result : Gateway R × Outcome FramePc}
    (h : g.resumeFrame rt now uuid socket ctx pc answer = some result) :
    result.1.wires = g.wires := by
  unfold resumeFrame at h
  split at h
  next =>
    cases h
    rfl
  next raw allowed =>
    cases h
    exact (keepsSockets_onMessageLimited rt g now socket ctx raw allowed).wires
  next roomId found =>
    cases h
    unfold joinSessionRoom
    repeat' split
    all_goals simp [issueReconnectToken]
  next =>
    cases h
    unfold joinSessionOnline
    split <;> simp
  next =>
    cases h
    exact send_wires _ _ _
  next => cases h

omit [JsMath R] in
theorem drainEarly_contexts (env : Env R) (g : Gateway R) (socket : SocketId)
    (messages : List String) : (g.drainEarly env socket messages).1.contexts = g.contexts := by
  cases messages with
  | nil => rfl
  | cons raw rest =>
    have h := (keepsSockets_onMessage env g socket raw).contexts
    simp only [drainEarly]
    split <;> rename_i heq <;> rw [heq] at h <;> simpa using h

theorem resumeConnection_keeps {env : Env R} {rt : Runtime R} {g : Gateway R} {now : Int}
    {uuid : String} {socket : SocketId} {wire : Wire} {pc : ConnectionPc} {answer : Answer}
    {result : Gateway R × Outcome ConnectionPc}
    (h : g.resumeConnection env rt now uuid socket wire pc answer = some result) :
    KeepsContexts g result.1 := by
  unfold resumeConnection at h
  split at h
  next =>
    cases h
    exact .of_eq (by simp)
  next =>
    split at h
    next =>
      cases h
      exact .of_eq (by simp)
    next =>
      split at h
      next =>
        cases h
        exact .of_eq (by simp)
      next payload _ =>
        cases h
        exact register_keeps g socket payload
  next =>
    cases h
    exact .of_eq (by simp)
  next =>
    cases h
    refine .of_eq ?_
    simp only [startListening, drainEarly_contexts, modifyWire_contexts]
  next rest framePc answer =>
    obtain ⟨ctx, -, h⟩ := Option.bind_eq_some_iff.mp h
    obtain ⟨⟨g', outcome⟩, hframe, rfl⟩ := Option.map_eq_some_iff.mp h
    have hkeep := (resumeFrame_ends hframe).1
    intro j hj
    cases outcome with
    | rejected reason => simpa using hkeep j hj
    | _ => exact hkeep j hj
  next =>
    cases h
    exact .of_eq (drainEarly_contexts env g socket _)
  next => cases h

omit [Field R] [LinearOrder R] [JsMath R] in
theorem onClose_contexts (g : Gateway R) (socket : SocketId) :
    (g.onClose socket).1.contexts = g.contexts := by
  unfold onClose
  split
  next => rfl
  next =>
    dsimp only
    split <;> split <;> rfl

theorem tick_contexts (env : Env R) (g : Gateway R) (now : Int) (session : SessionId)
    (object : SessionObject R) : (g.tick env now session object).contexts = g.contexts := by
  unfold tick
  refine (foldl_contexts _ (fun g event => ?_) _ _).trans rfl
  cases event with
  | snapshot message => exact foldl_contexts _ (fun g roomId => broadcast_contexts g _ _) _ _
  | playerDisconnected id => rfl

end Gateway
end RealtimeGameServer.Source
