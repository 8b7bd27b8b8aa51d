import RealtimeGameServer.Source.Fanout

/-!
# Which stretches tell a client of the world

`joined` is sent by `joinSession` after the presence call, together with a full
snapshot; besides it only `request_snapshot` and the timer of a session send
snapshots. `SendsNoWorld` holds of all other stretches: they send errors,
acknowledgements and the like, open no socket and forget no session object.
-/
namespace RealtimeGameServer.Source
open Lib

def ServerMessage.isJoined {R : Type} : ServerMessage R → Bool
  | .joined _ _ _ _ => true
  | _ => false

def ServerMessage.isSnapshot {R : Type} : ServerMessage R → Bool
  | .snapshot _ => true
  | _ => false

namespace GameSessionManager
variable {R : Type}

/-- The session of a room is an object. -/
def Bounded (m : GameSessionManager R) : Prop :=
  ∀ roomId id, m.get roomId = some id → id < m.objects.length

/-- No object is forgotten, and rooms refer to objects as before. -/
structure Grows (m m' : GameSessionManager R) : Prop where
  objects : m.objects.length ≤ m'.objects.length
  bounded : Bounded m → Bounded m'

theorem Grows.refl (m : GameSessionManager R) : Grows m m := ⟨Nat.le_refl _, id⟩

theorem Grows.trans {m m' m'' : GameSessionManager R} (h : Grows m m') (h' : Grows m' m'') :
    Grows m m'' := ⟨h.objects.trans h'.objects, fun hm => h'.bounded (h.bounded hm)⟩

theorem length_modify (m : GameSessionManager R) (id : SessionId)
    (f : SessionObject R → SessionObject R) :
    (m.modify id f).objects.length = m.objects.length := List.length_modify _ _ _

theorem grows_modify (m : GameSessionManager R) (id : SessionId)
    (f : SessionObject R → SessionObject R) : Grows m (m.modify id f) where
  objects := Nat.le_of_eq (length_modify m id f).symm
  bounded h roomId i hget := by
    rw [length_modify]
    exact h roomId i hget

theorem grows_modifySession (m : GameSessionManager R) (id : SessionId)
    (f : GameSession R → GameSession R) : Grows m (m.modifySession id f) := grows_modify m id _

theorem grows_getOrCreate (m : GameSessionManager R) (roomId : String) :
    Grows m (m.getOrCreate roomId).1 := by
  cases hget : m.get roomId with
  | some id =>
    rw [getOrCreate_of_some hget]
    exact .refl m
  | none =>
    have hlength : (m.getOrCreate roomId).1.objects.length = m.objects.length + 1 ∧
        (m.getOrCreate roomId).2 = m.objects.length := by
      unfold getOrCreate
      rw [show m.sessions.get roomId = none from hget]
      exact ⟨List.length_append, rfl⟩
    constructor
    case objects =>
      rw [hlength.1]
      exact Nat.le_succ _
    case bounded =>
      intro hm i id hi
      rw [get_getOrCreate, hlength.2] at hi
      rw [hlength.1]
      split at hi
      next =>
        cases hi
        exact Nat.lt_succ_self _
      next => exact Nat.lt_succ_of_lt (hm i id hi)

theorem getOrCreate_bounded {m : GameSessionManager R} (h : Bounded m) (roomId : String) :
    (m.getOrCreate roomId).2 < (m.getOrCreate roomId).1.objects.length :=
  (grows_getOrCreate m roomId).bounded h roomId _ ((get_getOrCreate m roomId roomId).trans (if_pos rfl))

theorem get_destroy (m : GameSessionManager R) (roomId i : String) :
    (m.destroy roomId).get i = if i = roomId then none else m.get i := by
  unfold destroy
  split
  next hnone =>
    split
    next heq =>
      rw [heq]
      exact hnone
    next => rfl
  next => exact JsMap.get_delete _ _ _

theorem length_destroy (m : GameSessionManager R) (roomId : String) :
    (m.destroy roomId).objects.length = m.objects.length := by
  unfold destroy
  split
  next => rfl
  next => exact length_modify _ _ _

theorem grows_destroy (m : GameSessionManager R) (roomId : String) : Grows m (m.destroy roomId) where
  objects := Nat.le_of_eq (length_destroy m roomId).symm
  bounded h i id hi := by
    rw [length_destroy]
    rw [get_destroy] at hi
    split at hi
    next => cases hi
    next => exact h i id hi

theorem grows_destroyAll (m : GameSessionManager R) : Grows m m.destroyAll :=
  List.foldlRecOn (motive := fun after => Grows m after) m.sessions.keys _ (.refl m)
    fun after hafter roomId _ => hafter.trans (grows_destroy after roomId)

theorem isSome_object {m : GameSessionManager R} {id : SessionId} (h : id < m.objects.length) :
    ∃ o, m.object id = some o := ⟨_, List.getElem?_eq_getElem h⟩

end GameSessionManager

namespace Gateway
variable {R : Type}

/-- From `g` to `g'` no `joined` and no snapshot is sent, no socket opens and no session
object is forgotten. -/
structure SendsNoWorld (g g' : Gateway R) : Prop where
  sent : ∃ new, g'.sent = g.sent ++ new ∧ ∀ e ∈ new, e.2.isJoined = false ∧ e.2.isSnapshot = false
  opened : ∀ i, g'.readyState i = .opened → g.readyState i = .opened
  sessions : g.sessions.Grows g'.sessions

theorem SendsNoWorld.refl (g : Gateway R) : SendsNoWorld g g where
  sent := ⟨[], (List.append_nil _).symm, fun e he => by cases he⟩
  opened _ h := h
  sessions := .refl _

theorem SendsNoWorld.trans {g g' g'' : Gateway R} (h : SendsNoWorld g g')
    (h' : SendsNoWorld g' g'') : SendsNoWorld g g'' where
  sent := by
    obtain ⟨first, hfirst, hin⟩ := h.sent
    obtain ⟨later, hlater, hin'⟩ := h'.sent
    refine ⟨first ++ later, ?_, fun e he => ?_⟩
    · rw [hlater, hfirst, List.append_assoc]
    · rcases List.mem_append.mp he with he | he
      · exact hin e he
      · exact hin' e he
  opened i hi := h.opened i (h'.opened i hi)
  sessions := h.sessions.trans h'.sessions

/-- A stretch that sends nothing and leaves the wires alone. -/
theorem SendsNoWorld.silent {g g' : Gateway R} (hsent : g'.sent = g.sent)
    (hwires : g'.wires = g.wires)
    (hsessions : g.sessions.Grows g'.sessions) : SendsNoWorld g g' where
  sent := ⟨[], hsent.trans (List.append_nil _).symm, fun e he => by cases he⟩
  opened i hi := by
    unfold readyState at hi ⊢
    rwa [hwires] at hi
  sessions := hsessions

theorem sendsNoWorld_acting (g : Gateway R) (session : SessionId)
    (op : GameSession R → GameSession R) :
    SendsNoWorld g { g with sessions := g.sessions.modifySession session op } :=
  .silent rfl rfl (GameSessionManager.grows_modifySession g.sessions session op)

theorem sendsNoWorld_modifyWire (g : Gateway R) (socket : SocketId) {f : Wire → Wire}
    (hf : ∀ wire, (f wire).readyState = .opened → wire.readyState = .opened) :
    SendsNoWorld g (g.modifyWire socket f) where
  sent := by
    refine ⟨[], ?_, fun e he => by cases he⟩
    rw [List.append_nil]
    unfold modifyWire
    split <;> rfl
  opened i hi := by
    unfold readyState at hi ⊢
    rw [get_modifyWire] at hi
    split at hi
    next =>
      cases hget : g.wires.get i with
      | none =>
        rw [hget] at hi
        cases hi
      | some wire =>
        rw [hget] at hi
        exact hf wire hi
    next => exact hi
  sessions := by
    rw [sessions_of_core (core_modifyWire g socket f)]
    exact .refl _

theorem sendsNoWorld_closeSocket (g : Gateway R) (socket : SocketId) :
    SendsNoWorld g (g.closeSocket socket) := by
  refine sendsNoWorld_modifyWire g socket fun wire => ?_
  split
  next => exact fun h => by cases h
  next => exact id

theorem sendsNoWorld_offEarly (g : Gateway R) (socket : SocketId) :
    SendsNoWorld g (g.offEarly socket) := by
  refine sendsNoWorld_modifyWire g socket fun wire => ?_
  split <;> exact id

theorem sendsNoWorld_foldl {α : Type} {f : Gateway R → α → Gateway R}
    (hf : ∀ g a, SendsNoWorld g (f g a)) (l : List α) (g : Gateway R) :
    SendsNoWorld g (l.foldl f g) := by
  induction l generalizing g with
  | nil => exact .refl g
  | cons a rest ih => exact (hf g a).trans (ih (f g a))

theorem readyState_send (g : Gateway R) (socket i : SocketId) (message : ServerMessage R) :
    (g.send socket message).readyState i = g.readyState i := by
  unfold readyState
  rw [send_wires]

theorem sent_send (g : Gateway R) (socket : SocketId) (message : ServerMessage R) :
    (g.send socket message).sent =
      g.sent ++ if g.readyState socket = .opened then [(socket, message)] else [] := by
  rw [send_eq]
  rfl

theorem sendsNoWorld_send (g : Gateway R) (socket : SocketId) {message : ServerMessage R}
    (hjoined : message.isJoined = false) (hsnapshot : message.isSnapshot = false) :
    SendsNoWorld g (g.send socket message) where
  sent := by
    refine ⟨_, sent_send g socket message, fun e he => ?_⟩
    split at he
    next =>
      rw [List.mem_singleton.mp he]
      exact ⟨hjoined, hsnapshot⟩
    next => cases he
  opened i hi := by rwa [readyState_send] at hi
  sessions := by
    rw [sessions_of_core (core_send g socket message)]
    exact .refl _

theorem sendsNoWorld_sendError (g : Gateway R) (socket : SocketId) (code message : String) :
    SendsNoWorld g (g.sendError socket code message) := sendsNoWorld_send g socket rfl rfl

theorem sendsNoWorld_refuse (g : Gateway R) (socket : SocketId) :
    SendsNoWorld g (g.refuseConnection socket) :=
  ((sendsNoWorld_offEarly g socket).trans (sendsNoWorld_sendError _ _ _ _)).trans
    (sendsNoWorld_closeSocket _ socket)

theorem sendsNoWorld_register (g : Gateway R) (socket : SocketId) (payload : AccessTokenPayload) :
    SendsNoWorld g (g.register socket payload) := by
  have hreplaced : SendsNoWorld g (g.replaceExistingSocket payload.playerId) := by
    unfold replaceExistingSocket
    split
    next => exact .refl g
    next existing _ =>
      exact (sendsNoWorld_closeSocket g existing).trans (.silent rfl rfl (.refl _))
  exact hreplaced.trans (.silent rfl rfl (.refl _))

theorem sendsNoWorld_onClose (g : Gateway R) (socket : SocketId) :
    SendsNoWorld g (g.onClose socket).1 := by
  unfold onClose
  split
  next => exact .silent rfl rfl (.refl _)
  next =>
    dsimp only
    split <;> split
    all_goals first
      | exact .silent rfl rfl (.refl _)
      | (refine SendsNoWorld.trans ?_ (sendsNoWorld_acting _ _ _)
         exact .silent rfl rfl (.refl _))

variable [Field R] [LinearOrder R] [JsMath R]

omit [JsMath R] in
theorem sendsNoWorld_onMessage (env : Env R) (g : Gateway R) (socket : SocketId) (raw : String) :
    SendsNoWorld g (g.onMessage env socket raw).1 := by
  unfold onMessage
  split
  next => exact .refl g
  next =>
    split
    next => exact sendsNoWorld_sendError g socket _ _
    next => exact .refl g

omit [JsMath R] in
theorem sendsNoWorld_drain (env : Env R) (g : Gateway R) (socket : SocketId)
    (messages : List String) : SendsNoWorld g (g.drainEarly env socket messages).1 := by
  cases messages with
  | nil => exact .refl g
  | cons raw rest =>
    have hmessage := sendsNoWorld_onMessage env g socket raw
    simp only [drainEarly]
    split <;> rename_i heq <;> rw [heq] at hmessage
    next => exact hmessage
    next => exact hmessage.trans (sendsNoWorld_refuse _ socket)
    next => exact hmessage

omit [Field R] [LinearOrder R] [JsMath R] in
theorem sendsNoWorld_joinSession (g : Gateway R) (now : Int) (socket : SocketId)
    (ctx : SocketContext) (roomId : String) (reconnectToken : Option String) :
    SendsNoWorld g (g.joinSession now socket ctx roomId reconnectToken).1 := by
  unfold joinSession
  dsimp only
  split
  next => exact .silent rfl rfl (.refl _)
  next =>
    split
    next =>
      refine SendsNoWorld.trans ?_ (sendsNoWorld_sendError _ _ _ _)
      exact .silent rfl rfl (.refl _)
    next => exact .silent rfl rfl (.refl _)

/-- No other message than `request_snapshot` is answered with a snapshot. -/
theorem sendsNoWorld_dispatch {g : Gateway R} {now : Int} {socket : SocketId} {ctx : SocketContext}
    {message : ClientMessage R} (h : message ≠ .requestSnapshot) :
    SendsNoWorld g (g.dispatch now socket ctx message).1 := by
  cases message with
  | joinSession roomId token => exact sendsNoWorld_joinSession g now socket ctx roomId token
  | input input =>
    simp only [dispatch, dispatchInput]
    split
    next => exact sendsNoWorld_sendError g socket _ _
    next =>
      split
      next => exact .refl g
      next =>
        split
        next => exact .refl g
        next =>
          split
          next =>
            refine SendsNoWorld.trans ?_ (sendsNoWorld_send _ _ rfl rfl)
            exact sendsNoWorld_acting _ _ _
          next => exact sendsNoWorld_acting _ _ _
  | ping clientTime =>
    simp only [dispatch, dispatchPing]
    refine SendsNoWorld.trans ?_ (sendsNoWorld_send _ _ rfl rfl)
    split
    next => exact .refl g
    next => exact sendsNoWorld_acting _ _ _
  | heartbeat =>
    simp only [dispatch, dispatchHeartbeat]
    split
    next => exact .refl g
    next => exact sendsNoWorld_acting _ _ _
  | requestSnapshot => exact absurd rfl h

omit [LinearOrder R] in
theorem entering_grows_enter (g : Gateway R) (now : Int) (uuid : String) (socket : SocketId)
    (ctx : SocketContext) (roomId : String) :
    (g.sessions.getOrCreate roomId).1.Grows (g.enter now uuid socket ctx roomId).sessions := by
  have hentering : (g.sessions.getOrCreate roomId).1.Grows (g.entering now ctx roomId) :=
    GameSessionManager.grows_modifySession _ _ _
  rcases enter_sessions g now uuid socket ctx roomId with heq | heq <;> rw [heq]
  · exact hentering
  · exact hentering.trans (GameSessionManager.grows_modify _ _ _)

omit [LinearOrder R] in
theorem sendsNoWorld_enter (g : Gateway R) (now : Int) (uuid : String) (socket : SocketId)
    (ctx : SocketContext) (roomId : String) :
    SendsNoWorld g (g.enter now uuid socket ctx roomId) := by
  refine .silent ?_ ?_ ?_
  · unfold enter issueReconnectToken modifyContext subscribe
    dsimp only
    split <;> split <;> rfl
  · unfold enter issueReconnectToken modifyContext subscribe
    dsimp only
    split <;> split <;> rfl
  · exact (GameSessionManager.grows_getOrCreate g.sessions roomId).trans
      (entering_grows_enter g now uuid socket ctx roomId)

omit [LinearOrder R] in
theorem sendsNoWorld_joinSessionRoom (g : Gateway R) (now : Int) (uuid : String)
    (socket : SocketId) (ctx : SocketContext) (roomId : String) (found : Option RoomEntity) :
    SendsNoWorld g (g.joinSessionRoom now uuid socket ctx roomId found).1 := by
  unfold joinSessionRoom
  split
  next => exact .refl g
  next =>
    split
    next => exact sendsNoWorld_sendError g socket _ _
    next =>
      split
      next => exact sendsNoWorld_sendError g socket _ _
      next => exact sendsNoWorld_enter g now uuid socket ctx roomId

/-- What a stretch of a frame's handler sends: the presence call that answers a
`joinSession` is followed by `joined` and a full snapshot, a `request_snapshot` by a
full snapshot, and everything else by neither. -/
inductive FrameSends (rt : Runtime R) (g : Gateway R) (now : Int) (socket : SocketId)
    (ctx : SocketContext) : FramePc → Answer → Gateway R × Outcome FramePc → Prop
  | other {pc : FramePc} {answer : Answer} {result : Gateway R × Outcome FramePc}
      (quiet : SendsNoWorld g result.1)
      (unjoined : ∀ roomId session token, pc = .joinOnline roomId session token →
        answer = .done → g.sessions.object session = none)
      (unrequested : ∀ raw session, pc = .rateLimited raw → answer = .limit true →
        (rt.jsonParse raw).bind clientMessageSchema = some .requestSnapshot →
        g.currentSession ctx = some session → g.sessions.object session = none) :
      FrameSends rt g now socket ctx pc answer result
  | joined {roomId token : String} {session : SessionId} {object : SessionObject R}
      (current : g.sessions.object session = some object) :
      FrameSends rt g now socket ctx (.joinOnline roomId session token) .done
        ((g.send socket (.joined roomId ctx.playerId object.session.tick token)).send socket
          (.snapshot (.full (object.session.buildFullSnapshot now))), .settled)
  | requested {raw : String} {session : SessionId} {object : SessionObject R}
      (parsed : (rt.jsonParse raw).bind clientMessageSchema = some .requestSnapshot)
      (joins : g.currentSession ctx = some session)
      (current : g.sessions.object session = some object) :
      FrameSends rt g now socket ctx (.rateLimited raw) (.limit true)
        (g.send socket (.snapshot (.full (object.session.buildFullSnapshot now))), .settled)

theorem onMessageLimited_sends (rt : Runtime R) (g : Gateway R) (now : Int) (socket : SocketId)
    (ctx : SocketContext) (raw : String) (allowed : Bool) :
    FrameSends rt g now socket ctx (.rateLimited raw) (.limit allowed)
      (g.onMessageLimited rt now socket ctx raw allowed) := by
  have hother : ∀ result : Gateway R × Outcome FramePc, SendsNoWorld g result.1 →
      (allowed = true → ∀ session,
        (rt.jsonParse raw).bind clientMessageSchema = some .requestSnapshot →
        g.currentSession ctx = some session → g.sessions.object session = none) →
      FrameSends rt g now socket ctx (.rateLimited raw) (.limit allowed) result := by
    intro result hquiet hnone
    refine .other hquiet (fun _ _ _ hpc => by cases hpc) fun raw' session hpc hanswer => ?_
    cases hpc
    cases hanswer
    exact hnone rfl session
  cases allowed with
  | false => exact hother _ (sendsNoWorld_sendError g socket _ _) fun h => by cases h
  | true =>
    simp only [onMessageLimited, not_true_eq_false, if_false]
    cases hparse : rt.jsonParse raw with
    | none =>
      refine hother _ (sendsNoWorld_sendError g socket _ _) fun _ session hparsed => ?_
      rw [hparse] at hparsed
      cases hparsed
    | some parsed =>
      dsimp only
      have hbind : (rt.jsonParse raw).bind clientMessageSchema = clientMessageSchema parsed := by
        rw [hparse, Option.bind_some]
      cases hschema : clientMessageSchema parsed with
      | none =>
        refine hother _ (sendsNoWorld_sendError g socket _ _) fun _ session hparsed => ?_
        cases hschema.symm.trans (hbind.symm.trans hparsed)
      | some message =>
        by_cases hrequest : message = .requestSnapshot
        · subst hrequest
          simp only [dispatch, dispatchSnapshot]
          split
          next hsession =>
            refine hother _ (.refl g) fun _ session _ hcurrent => ?_
            cases hsession.symm.trans hcurrent
          next session hsession =>
            split
            next hobject =>
              refine hother _ (.refl g) fun _ session' _ hcurrent => ?_
              cases hsession.symm.trans hcurrent
              exact hobject
            next object hobject => exact .requested (hbind.trans hschema) hsession hobject
        · refine hother _ (sendsNoWorld_dispatch hrequest) fun _ session hparsed => ?_
          cases hschema.symm.trans (hbind.symm.trans hparsed)
          exact absurd rfl hrequest

theorem resumeFrame_sends {rt : Runtime R} {g : Gateway R} {now : Int} {uuid : String}
    {socket : SocketId} {ctx : SocketContext} {pc : FramePc} {answer : Answer}
    {result : Gateway R × Outcome FramePc}
    (h : g.resumeFrame rt now uuid socket ctx pc answer = some result) :
    FrameSends rt g now socket ctx pc answer result := by
  unfold resumeFrame at h
  split at h
  next =>
    cases h
    exact .other (.refl g) (fun _ _ _ _ hanswer => by cases hanswer)
      fun _ _ _ hanswer => by cases hanswer
  next raw allowed =>
    cases h
    exact onMessageLimited_sends rt g now socket ctx raw allowed
  next roomId found =>
    cases h
    exact .other (sendsNoWorld_joinSessionRoom g now uuid socket ctx roomId found)
      (fun _ _ _ hpc => by cases hpc) fun _ _ hpc => by cases hpc
  next roomId session token =>
    cases h
    unfold joinSessionOnline
    split
    next hnone =>
      refine .other (.refl g) (fun _ _ _ hpc _ => ?_) fun _ _ hpc => by cases hpc
      cases hpc
      exact hnone
    next object hobject => exact .joined hobject
  next =>
    cases h
    exact .other (sendsNoWorld_send g socket rfl rfl) (fun _ _ _ hpc => by cases hpc)
      fun _ _ hpc => by cases hpc
  next => cases h

/-- A connection tells of the world what the buffered frame it runs does. -/
theorem ConnectionRuns.sends {env : Env R} {rt : Runtime R} {g : Gateway R} {now : Int}
    {uuid : String} {socket : SocketId} {wire : Wire} {pc : ConnectionPc} {answer : Answer}
    {result : Gateway R × Outcome ConnectionPc}
    (h : ConnectionRuns env rt g now uuid socket wire pc answer result) :
    (pc.frame = none ∧ SendsNoWorld g result.1) ∨
      ∃ framePc ctx outcome, pc.frame = some framePc ∧ g.contexts.get socket = some ctx ∧
        FrameSends rt g now socket ctx framePc answer (result.1, outcome) := by
  cases h with
  | limiterFailed => exact Or.inl ⟨rfl, sendsNoWorld_refuse g socket⟩
  | limited =>
    exact Or.inl ⟨rfl, (sendsNoWorld_offEarly g socket).trans (sendsNoWorld_closeSocket _ socket)⟩
  | unauthenticated => exact Or.inl ⟨rfl, sendsNoWorld_refuse g socket⟩
  | @registered payload => exact Or.inl ⟨rfl, sendsNoWorld_register g socket payload⟩
  | presenceFailed => exact Or.inl ⟨rfl, sendsNoWorld_refuse g socket⟩
  | listening =>
    have hattached : SendsNoWorld g (g.modifyWire socket fun wire =>
        { wire with listening := .live, closeListener := true }) :=
      sendsNoWorld_modifyWire g socket fun _ h => h
    exact Or.inl ⟨rfl, hattached.trans (sendsNoWorld_drain env _ socket _)⟩
  | @early rest framePc answer ctx after context ran =>
    have hsends := resumeFrame_sends ran
    refine Or.inr ⟨framePc, ctx, after.2, rfl, context, ?_⟩
    obtain ⟨after, outcome⟩ := after
    cases outcome with
    | rejected reason =>
      cases hsends with
      | other quiet unjoined unrequested =>
        exact .other (quiet.trans (sendsNoWorld_refuse after socket)) unjoined unrequested
    | settled => exact hsends
    | awaiting framePc' call => exact hsends
  | drained => exact Or.inl ⟨rfl, sendsNoWorld_drain env g socket _⟩

/-- A handler that waits for the presence call of its `joinSession` holds a session
object. -/
def HoldsSession (g : Gateway R) : FramePc → Prop
  | .joinOnline _ session _ => session < g.sessions.objects.length
  | _ => True

omit [Field R] [LinearOrder R] [JsMath R] in
theorem HoldsSession.mono {g g' : Gateway R} {pc : FramePc} (h : HoldsSession g pc)
    (hgrows : g.sessions.Grows g'.sessions) : HoldsSession g' pc := by
  cases pc with
  | joinOnline => exact Nat.lt_of_lt_of_le h hgrows.objects
  | _ => trivial

omit [JsMath R] in
theorem onMessage_holds {env : Env R} {g : Gateway R} {socket : SocketId} {raw : String}
    {pc : FramePc} {call : ExternalCall} (h : (g.onMessage env socket raw).2 = .awaiting pc call)
    (g' : Gateway R) : HoldsSession g' pc := by
  rcases onMessage_outcome env g socket raw with hout | ⟨_, _, _, _, hout⟩
  · cases hout.symm.trans h
  · cases hout.symm.trans h
    trivial

theorem resumeFrame_holds {rt : Runtime R} {g : Gateway R} {now : Int} {uuid : String}
    {socket : SocketId} {ctx : SocketContext} {pc next : FramePc} {answer : Answer}
    {result : Gateway R × Outcome FramePc} {call : ExternalCall} (hbounded : g.sessions.Bounded)
    (h : g.resumeFrame rt now uuid socket ctx pc answer = some result)
    (hout : result.2 = .awaiting next call) : HoldsSession result.1 next := by
  unfold resumeFrame at h
  split at h
  next =>
    cases h
    cases hout
  next raw allowed =>
    cases h
    unfold onMessageLimited at hout ⊢
    split at hout
    next => cases hout
    next =>
      split at hout
      next => cases hout
      next =>
        split at hout
        next => cases hout
        next message _ =>
          cases message with
          | joinSession roomId token =>
            simp only [dispatch, joinSession] at hout
            split at hout
            next =>
              cases hout
              trivial
            next =>
              split at hout
              next => cases hout
              next =>
                cases hout
                trivial
          | heartbeat =>
            cases hout
            trivial
          | _ => cases hout
  next roomId found =>
    cases h
    unfold joinSessionRoom at hout ⊢
    split at hout
    next => cases hout
    next =>
      split at hout
      next => cases hout
      next hmember =>
        split at hout
        next => cases hout
        next hstatus =>
          cases hout
          rw [if_neg hmember, if_neg hstatus]
          have hsession := GameSessionManager.getOrCreate_bounded hbounded roomId
          have hgrows := entering_grows_enter g now uuid socket ctx roomId
          exact Nat.lt_of_lt_of_le hsession hgrows.objects
  next =>
    cases h
    cases hout
  next =>
    cases h
    cases hout
  next => cases h

omit [JsMath R] in
theorem drainEarly_holds {env : Env R} {g : Gateway R} {socket : SocketId}
    {messages rest : List String} {pc : FramePc} {call : ExternalCall}
    (h : (g.drainEarly env socket messages).2 = .awaiting (.early rest pc) call) (g' : Gateway R) :
    HoldsSession g' pc := by
  cases messages with
  | nil => cases h
  | cons raw rest =>
    simp only [drainEarly] at h
    split at h <;> rename_i heq <;> cases h
    exact onMessage_holds (congrArg Prod.snd heq) g'

theorem ConnectionRuns.holds {env : Env R} {rt : Runtime R} {g : Gateway R} {now : Int}
    {uuid : String} {socket : SocketId} {wire : Wire} {pc : ConnectionPc} {answer : Answer}
    {result : Gateway R × Outcome ConnectionPc} {rest : List String} {next : FramePc}
    {call : ExternalCall} (hbounded : g.sessions.Bounded)
    (h : ConnectionRuns env rt g now uuid socket wire pc answer result)
    (hout : result.2 = .awaiting (.early rest next) call) : HoldsSession result.1 next := by
  cases h with
  | listening => exact drainEarly_holds hout _
  | drained => exact drainEarly_holds hout _
  | @early rest framePc answer ctx result context ran =>
    obtain ⟨after, outcome⟩ := result
    cases outcome with
    | awaiting framePc' call' =>
      cases hout
      exact resumeFrame_holds hbounded ran rfl
    | _ => cases hout
  | registered => cases hout
  | _ => cases hout

end Gateway
end RealtimeGameServer.Source
