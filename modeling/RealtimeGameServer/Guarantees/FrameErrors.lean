import RealtimeGameServer.Source.GatewaySteps
import RealtimeGameServer.Source.RealMotion

/-!
# Frames that reject

`onMessage` is started detached by the message listener, so a rejection is
handled by nobody. In runs in which Redis and the database answer every call, a
frame's handler has at most three awaits to go and takes every answer; it
rejects exactly when the lobby is asked for a room that does not exist, because
`getRoom` throws instead of returning. The same frame buffered before the
connection is set up is handled inside the `try` of `handleConnection`.
-/
namespace RealtimeGameServer.Guarantees.FrameErrors
open Lib Source Source.Gateway

variable {R : Type} [Field R] [LinearOrder R] [JsMath R]

/-- The handler settles, one way or the other, within `n` answers, whatever
state of the gateway each of them finds. -/
def SettlesWithin (rt : Runtime R) (socket : SocketId) : Nat → FramePc → Prop
  | 0, _ => False
  | n + 1, pc => ∀ (g : Gateway R) now uuid ctx answer result, answer ≠ .failed →
      g.resumeFrame rt now uuid socket ctx pc answer = some result →
      match result.2 with
      | .awaiting pc' _ => SettlesWithin rt socket n pc'
      | _ => True

/-- No frame's handler has rejected, and those in flight settle: they take every
answer to their call and are at most three answers from their end. -/
structure FramesSettle (env : Env R) (rt : Runtime R) (s : Server R) : Prop where
  noRejection : ∀ entry ∈ s.unhandled, ∀ socket pc, entry.1 ≠ .message socket pc
  progress : ∀ number socket pc call,
    s.handlers.get number = some ⟨.message socket pc, call⟩ →
      SettlesWithin rt socket 3 pc ∧ ∀ answer, call.Expects answer →
        ∀ now uuid, (s.resume env rt number now uuid answer).isSome

/-- The lobby lookups of live frames find their room. -/
def RoomExists (s : Server R) : ServerEvent → Prop
  | .answer number _ _ (.room none) => ∀ socket roomId call,
      s.handlers.get number ≠ some ⟨.message socket (.roomLookup roomId), call⟩
  | _ => True

/-- The calls to Redis and the database succeed. -/
def Succeeds : ServerEvent → Prop
  | .answer _ _ _ .failed => False
  | _ => True

/-- The invariant: a frame's handler waits for the call of its place and has its
context. -/
structure Waiting (s : Server R) : Prop where
  noRejection : ∀ entry ∈ s.unhandled, ∀ socket pc, entry.1 ≠ .message socket pc
  waits : ∀ number socket pc call,
    s.handlers.get number = some ⟨.message socket pc, call⟩ →
      (s.gateway.contexts.get socket).isSome ∧ pc.Awaits call

theorem settlesWithin (rt : Runtime R) (socket : SocketId) (n : Nat) (pc : FramePc)
    (h : pc.awaitsLeft ≤ n) : SettlesWithin rt socket n pc := by
  induction n generalizing pc with
  | zero => cases pc <;> simp [FramePc.awaitsLeft] at h
  | succ n ih =>
    intro g now uuid ctx answer result hanswer hresume
    obtain ⟨after, outcome⟩ := result
    obtain ⟨-, hends⟩ := resumeFrame_ends hresume
    cases hends with
    | callFailed failed => exact absurd failed hanswer
    | roomAbsent => trivial
    | settled => trivial
    | @awaits next call answered present awaited fewer => exact ih next (by omega)

theorem Waiting.framesSettle {env : Env R} {rt : Runtime R} {s : Server R} (h : Waiting s) :
    FramesSettle env rt s where
  noRejection := h.noRejection
  progress := by
    intro number socket pc call hget
    obtain ⟨hctx, hawaits⟩ := h.waits number socket pc call hget
    have hleft : pc.awaitsLeft ≤ 3 := by cases pc <;> simp [FramePc.awaitsLeft]
    refine ⟨settlesWithin rt socket 3 pc hleft, ?_⟩
    intro answer hexpects now uuid
    obtain ⟨ctx, hctx⟩ := Option.isSome_iff_exists.mp hctx
    simp only [Server.resume, hget, hctx, Option.bind_some, Option.isSome_map]
    exact resumeFrame_isSome rt s.gateway now uuid socket ctx hawaits hexpects

omit [Field R] [LinearOrder R] [JsMath R] in
/-- A handler that runs one stretch keeps the invariant, unless it is a frame's
and rejects. -/
theorem Waiting.conclude {Pc : Type} {s : Server R} (h : Waiting s) (number : Nat)
    (origin : Handler) (resume : Pc → Handler) (result : Gateway R × Outcome Pc)
    (keeps : KeepsContexts s.gateway result.1)
    (rejected : ∀ reason, result.2 = .rejected reason → ∀ socket pc, origin ≠ .message socket pc)
    (awaiting : ∀ pc call, result.2 = .awaiting pc call → ∀ socket framePc,
      resume pc = .message socket framePc →
        (result.1.contexts.get socket).isSome ∧ framePc.Awaits call) :
    Waiting (s.conclude number origin resume result) := by
  have hwaits : ∀ (m : JsMap Nat Suspended), (∀ k v, m.get k = some v → s.handlers.get k = some v) →
      ∀ k socket pc call, m.get k = some ⟨.message socket pc, call⟩ →
        (result.1.contexts.get socket).isSome ∧ pc.Awaits call := by
    intro m hm k socket pc call hk
    obtain ⟨hctx, hawaits⟩ := h.waits k socket pc call (hm k _ hk)
    exact ⟨keeps socket hctx, hawaits⟩
  have hdelete : ∀ k v, (s.handlers.delete number).get k = some v →
      s.handlers.get k = some v := fun _ _ hk => (JsMap.get_delete_cases hk).2
  unfold Server.conclude
  split
  next => exact ⟨h.noRejection, hwaits _ hdelete⟩
  next reason hout =>
    constructor
    case noRejection =>
      intro entry hentry
      rcases List.mem_append.mp hentry with hold | hnew
      · exact h.noRejection entry hold
      · rw [List.mem_singleton.mp hnew]
        exact rejected reason hout
    case waits => exact hwaits _ hdelete
  next pc call hout =>
    constructor
    case noRejection => exact h.noRejection
    case waits =>
      intro k socket framePc call' hk
      rcases JsMap.get_set_cases hk with ⟨-, hstored⟩ | ⟨-, hold⟩
      · obtain ⟨hhandler, rfl⟩ := Suspended.mk.inj hstored
        exact awaiting pc _ hout socket framePc hhandler.symm
      · exact hwaits s.handlers (fun _ _ h => h) k socket framePc call' hold

omit [Field R] [LinearOrder R] [JsMath R] in
/-- A handler that is not a frame's only has to keep the contexts. -/
theorem Waiting.concludeOther {Pc : Type} {s : Server R} (h : Waiting s) (number : Nat)
    {origin : Handler} {resume : Pc → Handler} (result : Gateway R × Outcome Pc)
    (keeps : KeepsContexts s.gateway result.1)
    (horigin : ∀ socket pc, origin ≠ .message socket pc)
    (hresume : ∀ at_ socket pc, resume at_ ≠ .message socket pc) :
    Waiting (s.conclude number origin resume result) :=
  h.conclude number origin resume result keeps (fun _ _ => horigin)
    fun at_ _ _ socket pc heq => absurd heq (hresume at_ socket pc)

omit [Field R] [LinearOrder R] [JsMath R] in
theorem Waiting.counted {s : Server R} (h : Waiting s) (n : Nat) :
    Waiting { s with started := n } := ⟨h.noRejection, h.waits⟩

omit [Field R] [LinearOrder R] [JsMath R] in
/-- Handlers and rejections untouched, contexts kept. -/
theorem Waiting.gateway {s : Server R} (h : Waiting s) {g : Gateway R}
    (keeps : KeepsContexts s.gateway g) : Waiting { s with gateway := g } where
  noRejection := h.noRejection
  waits number socket pc call hget :=
    ⟨keeps socket (h.waits number socket pc call hget).1, (h.waits number socket pc call hget).2⟩

omit [JsMath R] in
theorem Waiting.frame {env : Env R} {s s' : Server R} {socket : SocketId} {raw : String}
    (h : Waiting s) (hstep : s.frame env socket raw = some s') : Waiting s' := by
  unfold Server.frame at hstep
  split at hstep
  next => cases hstep
  next wire _ =>
    split at hstep
    next => cases hstep
    next =>
      split at hstep
      next buffer _ =>
        cases hstep
        exact h.gateway (.of_eq (modifyWire_contexts _ _ _))
      next =>
        cases hstep
        have hout := onMessage_outcome env s.gateway socket raw
        have hkeep := (keepsSockets_onMessage env s.gateway socket raw).contexts
        apply (h.counted (s.started + 1)).conclude s.started _ _ _ (.of_eq hkeep)
        case rejected =>
          intro reason hrejected
          rcases hout with hout | ⟨_, _, _, _, hout⟩ <;> rw [hout] at hrejected <;> cases hrejected
        case awaiting =>
          intro pc call hawaiting socket' framePc heq
          cases heq
          rcases hout with hout | ⟨ctx, call', hctx, hawaits, hout⟩
          · rw [hout] at hawaiting
            cases hawaiting
          · rw [hout] at hawaiting
            cases hawaiting
            constructor
            · rw [hkeep, hctx]
              rfl
            · exact hawaits
      next =>
        cases hstep
        exact h

theorem Waiting.resume {env : Env R} {rt : Runtime R} {s s' : Server R} {number : Nat} {now : Int}
    {uuid : String} {answer : Answer} (h : Waiting s) (hsucceeds : answer ≠ .failed)
    (hguard : RoomExists s (.answer number now uuid answer))
    (hstep : s.resume env rt number now uuid answer = some s') : Waiting s' := by
  unfold Server.resume at hstep
  split at hstep
  next => cases hstep
  next socket pc call hget =>
    obtain ⟨ctx, hctx, hstep⟩ := Option.bind_eq_some_iff.mp hstep
    obtain ⟨⟨g, outcome⟩, hframe, rfl⟩ := Option.map_eq_some_iff.mp hstep
    obtain ⟨hkeep, hends⟩ := resumeFrame_ends hframe
    apply h.conclude _ _ _ _ hkeep
    case rejected =>
      intro reason hrejected
      subst hrejected
      -- a failed call or a lookup that finds nothing, and both are excluded
      cases hends with
      | callFailed failed => exact absurd failed hsucceeds
      | @roomAbsent roomId place absent =>
        subst place absent
        exact absurd hget (hguard socket roomId call)
    case awaiting =>
      intro pc' call' hawaiting socket' framePc heq
      subst hawaiting
      cases heq
      have hpresent : (s.gateway.contexts.get socket).isSome := by
        rw [hctx]
        rfl
      cases hends with
      | awaits answered present awaited fewer => exact ⟨hkeep _ hpresent, awaited⟩
  next socket pc call hget =>
    obtain ⟨wire, -, hstep⟩ := Option.bind_eq_some_iff.mp hstep
    obtain ⟨result, hconnection, rfl⟩ := Option.map_eq_some_iff.mp hstep
    exact h.concludeOther _ _ (resumeConnection_keeps hconnection) nofun nofun
  next socket call hget =>
    split at hstep
    next =>
      cases hstep
      exact h.concludeOther _ _ (.of_eq rfl) nofun nofun
    next => exact absurd rfl hsucceeds
    next => cases hstep

/-- One event keeps the invariant. -/
theorem Waiting.step {env : Env R} {rt : Runtime R} {s s' : Server R} {event : ServerEvent}
    (h : Waiting s) (hsucceeds : Succeeds event) (hguard : RoomExists s event)
    (hstep : s.step env rt event = some s') : Waiting s' := by
  cases event with
  | connect socket request =>
    simp only [Server.step, Server.connect] at hstep
    split at hstep
    next => cases hstep
    next =>
      cases hstep
      exact (h.counted _).concludeOther _ (_, _) (.of_eq rfl) nofun nofun
  | frame socket raw => exact h.frame hstep
  | answer number now uuid answer =>
    have hanswered : answer ≠ .failed := by
      intro hfailed
      subst hfailed
      exact hsucceeds
    exact h.resume hanswered hguard hstep
  | close socket =>
    simp only [Server.step, Server.close] at hstep
    split at hstep
    next => cases hstep
    next =>
      split at hstep
      next => cases hstep
      next =>
        split at hstep
        next =>
          cases hstep
          refine (h.counted _).concludeOther _ _ (.of_eq ?_) nofun nofun
          rw [onClose_contexts, modifyWire_contexts]
        next =>
          cases hstep
          exact h.gateway (.of_eq (modifyWire_contexts _ _ _))
  | tick session now =>
    simp only [Server.step, Server.tick] at hstep
    split at hstep
    next => cases hstep
    next object _ =>
      split at hstep
      next =>
        cases hstep
        exact h.gateway (.of_eq (tick_contexts env _ now session object))
      next => cases hstep
  | destroy roomId =>
    cases hstep
    exact h.gateway (.of_eq rfl)
  | shutdown =>
    cases hstep
    exact h.gateway (.of_eq (foldl_contexts _ closeSocket_contexts _ _))

/-- In every run in which Redis and the database answer, no frame's handler ever
rejects and all of them settle if and only if every lobby lookup made for a
live frame finds its room. -/
theorem frames_settle_iff (env : Env R) (rt : Runtime R) (events : List ServerEvent)
    (succeed : ∀ event ∈ events, Succeeds event) :
    (Server.machine env rt).Along (FramesSettle env rt) Server.empty events ↔
      (Server.machine env rt).StepsMeet RoomExists Server.empty events := by
  refine Machine.along_iff_stepsMeet (I := Waiting) (fun _ h => h.framesSettle) ?_ ?_ succeed ?_
  · exact fun s event s' h hsucceeds hstep hguard => h.step hsucceeds hguard hstep
  · intro s event s' h _ hstep hsettle
    unfold RoomExists
    split
    next number _ _ _ =>
      intro socket roomId call hget
      obtain ⟨hctx, -⟩ := h.waits number socket _ call hget
      obtain ⟨ctx, hctx⟩ := Option.isSome_iff_exists.mp hctx
      -- the handler rejects, and its rejection is recorded
      have hafter : s' = s.conclude number (.message socket (.roomLookup roomId))
          (.message socket) (s.gateway, .rejected (.app (.notFound "Room"))) := by
        simp only [Server.machine, Server.step, Server.resume, hget, hctx, Option.bind_some] at hstep
        exact (Option.some.inj hstep).symm
      rw [hafter] at hsettle
      exact hsettle.noRejection (.message socket (.roomLookup roomId), .app (.notFound "Room"))
        (by simp [Server.conclude]) socket (.roomLookup roomId) rfl
    next => trivial
  · exact ⟨nofun, nofun⟩

/-- No room has this id. -/
def absentRoom : String := "00000000-0000-4000-8000-000000000000"

/-- The text of a `join_session` frame for that room. -/
def joinText : String := "\x7b\"type\":\"join_session\",\"roomId\":\"" ++ absentRoom ++ "\"\x7d"

/-- What `JSON.parse` makes of it. -/
def joinFrame : Json ℝ :=
  .obj fun key => if key = "type" then some (.str "join_session")
    else if key = "roomId" then some (.str absentRoom) else none

def request : Request where
  forwardedFor := none
  remoteAddress := some "198.51.100.7"
  authorization := some "Bearer token-1"
  url := some "/ws"

/-- A platform on which one token is valid and one text is JSON. -/
def runtime : Runtime ℝ where
  jsonParse raw := if raw = joinText then some joinFrame else none
  queryToken _ := some none
  verifyAccessToken token := if token = "token-1" then some ⟨"u1", "p1", "nova"⟩ else none

/-- A client connects and sends the frame; the lobby answers with `found`. -/
def joinRun (found : Option RoomEntity) : List ServerEvent :=
  [.connect 0 request, .answer 0 0 "" (.limit true), .answer 0 0 "" .done, .frame 0 joinText,
    .answer 1 0 "" (.limit true), .answer 1 0 "" (.room found)]

theorem joinFrame_parses :
    clientMessageSchema joinFrame = some (.joinSession absentRoom none) := by
  have huuid : isUuid absentRoom = true := by decide
  simp [clientMessageSchema, joinFrame, Json.field, Json.asStr, parseJoinSession, optionalStr,
    huuid]

theorem joinRun_unhandled :
    ((Server.machine defaultEnv runtime).exec Server.empty (joinRun none)).map (·.unhandled) =
      some [(.message 0 (.roomLookup absentRoom), .app (.notFound "Room"))] := rfl

/-- One schema-valid frame that names no room leaves an unhandled rejection. -/
theorem absent_room_rejects :
    clientMessageSchema joinFrame = some (.joinSession absentRoom none) ∧
    (∀ event ∈ joinRun none, Succeeds event) ∧
    ¬(Server.machine defaultEnv runtime).Along (FramesSettle defaultEnv runtime) Server.empty
      (joinRun none) := by
  refine ⟨joinFrame_parses, by simp [joinRun, Succeeds], fun halong => ?_⟩
  obtain ⟨s, hexec, hunhandled⟩ := Option.map_eq_some_iff.mp joinRun_unhandled
  have hmem : (Handler.message 0 (.roomLookup absentRoom), Rejection.app (.notFound "Room")) ∈
      s.unhandled := by
    rw [hunhandled]
    exact List.mem_singleton_self _
  exact (halong.last hexec).noRejection _ hmem 0 (.roomLookup absentRoom) rfl

/-- The same frame while the room exists. -/
theorem present_room_settles :
    (Server.machine defaultEnv runtime).Along (FramesSettle defaultEnv runtime) Server.empty
      (joinRun (some ⟨absentRoom, "ABC123", "Arena", "p2", 4, .waiting, []⟩)) := by
  refine (frames_settle_iff defaultEnv runtime _ (by simp [joinRun, Succeeds])).mpr
    (Machine.StepsMeet.of_labels ?_ _)
  simp [joinRun, RoomExists]

end RealtimeGameServer.Guarantees.FrameErrors
