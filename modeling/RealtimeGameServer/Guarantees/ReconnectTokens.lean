import RealtimeGameServer.Guarantees.DeadConnections
import RealtimeGameServer.Lib.Tickets
import RealtimeGameServer.Source.Registry

/-!
# Reconnect tokens

`joinSession` checks a token and deletes it before its first await and issues one
after its second, so that the joins of several sockets can be anywhere between. The
table of tokens is a table of tickets held by connections: the check uses a token up,
and an issue deletes the token that the context object of the connection names. What
is recorded are the issues and the passed checks.
-/
namespace RealtimeGameServer.Guarantees.ReconnectTokens
open Lib Source
open DeadConnections (frameOf tokens_of_core)
open SessionAccess (arena joinText joinFrame request)

/-- A check that a token passes: on which connection, of which player, for which room
and when. -/
structure Check where
  socket : SocketId
  playerId : String
  roomId : String
  now : Int
  deriving DecidableEq, Repr

abbrev TokenEvent := TicketEvent String SocketId ReconnectEntry Check

/-- The check was made by the player and for the room the token was issued for, and
before it expired. -/
def Honours (entry : ReconnectEntry) (check : Check) : Prop :=
  entry.playerId = check.playerId ∧ entry.roomId = check.roomId ∧ check.now < entry.expiresAt

variable {R : Type}

/-- The gateway's tokens as tickets. -/
def table (g : Gateway R) : TicketTable String SocketId ReconnectEntry where
  usable := g.reconnectTokens.get
  held socket := (g.contexts.get socket).bind SocketContext.reconnectToken

/-- The token that passes the check of a `joinSession`. -/
def passes (g : Gateway R) (now : Int) (socket : SocketId) (ctx : SocketContext)
    (roomId : String) (reconnectToken : Option String) : List TokenEvent :=
  match reconnectToken.filter (· ≠ "") with
  | none => []
  | some token =>
    if (g.purgeExpiredReconnectTokens now).refusesReconnect now ctx roomId token then []
    else [.used token ⟨socket, ctx.playerId, roomId, now⟩]

section Recording
variable [Field R] [LinearOrder R] [JsMath R]

/-- What a stretch of `onMessage` does with the tokens. -/
def frameEvents (rt : Runtime R) (g : Gateway R) (now : Int) (uuid : String) (socket : SocketId)
    (ctx : SocketContext) : FramePc → Answer → List TokenEvent
  | .rateLimited raw, .limit true =>
    match (rt.jsonParse raw).bind clientMessageSchema with
    | some (.joinSession roomId reconnectToken) => passes g now socket ctx roomId reconnectToken
    | _ => []
  | .roomLookup roomId, .room (some room) =>
    if Gateway.Admits ctx.playerId room then
      [.issued uuid socket ⟨ctx.playerId, roomId, now + reconnectTtlMs⟩]
    else []
  | _, _ => []

/-- What an event of the server does with the tokens. -/
def tokenEvents (rt : Runtime R) (s : Server R) : ServerEvent → List TokenEvent
  | .answer number now uuid answer =>
    match (s.handlers.get number).bind fun suspended => frameOf suspended.handler with
    | none => []
    | some (socket, pc) =>
      match s.gateway.contexts.get socket with
      | none => []
      | some ctx => frameEvents rt s.gateway now uuid socket ctx pc answer
  | _ => []

/-- The server with the record of its tokens. -/
def recorded (env : Env R) (rt : Runtime R) : Machine (Server R × List TokenEvent) ServerEvent :=
  (Server.machine env rt).recording (tokenEvents rt)

/-- `randomUUID` draws no token a second time. -/
def freshUuid (rt : Runtime R) (p : Server R × List TokenEvent) (event : ServerEvent) : Bool :=
  ((tokenEvents rt p.1 event).filterMap Tickets.issues).all fun token =>
    token ∉ p.2.filterMap Tickets.issues

end Recording

abbrev Changes (g g' : Gateway R) (events : List TokenEvent) : Prop :=
  Tickets.Changes Honours (table g) (table g') events

theorem contexts_of_core {g g' : Gateway R} (h : g'.core = g.core) : g'.contexts = g.contexts := by
  have hcontexts := congrArg Gateway.contexts h
  exact hcontexts

theorem table_of_core {g g' : Gateway R} (h : g'.core = g.core) : table g' = table g := by
  unfold table
  rw [tokens_of_core h, contexts_of_core h]

theorem changes_kept {g g' : Gateway R}
    (htokens : ∀ token entry, g'.reconnectTokens.get token = some entry →
      g.reconnectTokens.get token = some entry)
    (hheld : ∀ i, (g'.contexts.get i).bind SocketContext.reconnectToken =
      (g.contexts.get i).bind SocketContext.reconnectToken) : Changes g g' [] :=
  .kept htokens hheld

theorem changes_refl (g : Gateway R) : Changes g g [] :=
  changes_kept (fun _ _ hget => hget) fun _ => rfl

theorem changes_of_core {g g' : Gateway R} (h : g'.core = g.core) : Changes g g' [] := by
  unfold Changes
  rw [table_of_core h]
  exact changes_refl g

theorem usable_purge {g : Gateway R} {now : Int} {token : String} {entry : ReconnectEntry}
    (h : (g.purgeExpiredReconnectTokens now).reconnectTokens.get token = some entry) :
    g.reconnectTokens.get token = some entry := (JsMap.get_filter_of_get h).1

/-- A token that is not refused is in the table, and its entry fits. -/
theorem honours_of_not_refused {g : Gateway R} {now : Int} {ctx : SocketContext}
    {roomId token : String} (socket : SocketId)
    (h : ¬(g.refusesReconnect now ctx roomId token = true)) :
    ∃ entry, g.reconnectTokens.get token = some entry ∧
      Honours entry ⟨socket, ctx.playerId, roomId, now⟩ := by
  unfold Gateway.refusesReconnect at h
  split at h
  next => exact absurd rfl h
  next entry hget =>
    simp only [Bool.or_eq_true, decide_eq_true_eq, not_or, not_le, ne_eq, not_not] at h
    exact ⟨entry, hget, h.1.2, h.2, h.1.1⟩

theorem changes_joinSession (g : Gateway R) (now : Int) (socket : SocketId) (ctx : SocketContext)
    (roomId : String) (reconnectToken : Option String) :
    Changes g (g.joinSession now socket ctx roomId reconnectToken).1
      (passes g now socket ctx roomId reconnectToken) := by
  unfold Gateway.joinSession passes
  generalize reconnectToken.filter (· ≠ "") = given
  cases given with
  | none =>
    have hkept : Changes g (g.purgeExpiredReconnectTokens now) [] :=
      changes_kept (fun _ _ hget => usable_purge hget) fun _ => rfl
    exact hkept
  | some token =>
    dsimp only
    generalize hafter : ({ g.purgeExpiredReconnectTokens now with
      reconnectTokens := (g.purgeExpiredReconnectTokens now).reconnectTokens.delete token } :
        Gateway R) = after
    have hget : ∀ other, after.reconnectTokens.get other =
        if other = token then none
        else (g.purgeExpiredReconnectTokens now).reconnectTokens.get other := by
      intro other
      rw [← hafter]
      exact JsMap.get_delete _ _ _
    have hcontexts : after.contexts = g.contexts := by
      rw [← hafter]
      rfl
    have hdeleted : ∀ other entry, after.reconnectTokens.get other = some entry →
        g.reconnectTokens.get other = some entry := by
      intro other entry hother
      rw [hget] at hother
      split at hother
      next => cases hother
      next => exact usable_purge hother
    have hheld : ∀ i, (after.contexts.get i).bind SocketContext.reconnectToken =
        (g.contexts.get i).bind SocketContext.reconnectToken := by
      intro i
      rw [hcontexts]
    split
    next =>
      unfold Changes
      rw [table_of_core (Gateway.core_sendError _ _ _ _)]
      exact changes_kept hdeleted hheld
    next hpassed =>
      obtain ⟨entry, hfound, hhonours⟩ := honours_of_not_refused socket hpassed
      have hgone := (hget token).trans (if_pos rfl)
      exact .used (usable_purge hfound) hhonours hgone hdeleted hheld

section Frames
variable [Field R] [LinearOrder R] [JsMath R]

/-- The other messages touch no token. -/
theorem changes_dispatch {g : Gateway R} {now : Int} {socket : SocketId} {ctx : SocketContext}
    {message : ClientMessage R} (h : ∀ roomId token, message ≠ .joinSession roomId token) :
    Changes g (g.dispatch now socket ctx message).1 [] := by
  have hcontexts := (Gateway.keepsSockets_dispatch g now socket ctx message).contexts
  have htokens : (g.dispatch now socket ctx message).1.reconnectTokens = g.reconnectTokens := by
    cases message with
    | joinSession roomId token => exact absurd rfl (h roomId token)
    | input input =>
      simp only [Gateway.dispatch, Gateway.dispatchInput]
      repeat' split
      all_goals first | rfl | exact (tokens_of_core (Gateway.core_send _ _ _)).trans rfl
    | ping clientTime =>
      simp only [Gateway.dispatch, Gateway.dispatchPing]
      rw [tokens_of_core (Gateway.core_send _ _ _)]
      split <;> rfl
    | heartbeat =>
      simp only [Gateway.dispatch, Gateway.dispatchHeartbeat]
      split <;> rfl
    | requestSnapshot =>
      simp only [Gateway.dispatch, Gateway.dispatchSnapshot]
      repeat' split
      all_goals first | rfl | exact (tokens_of_core (Gateway.core_send _ _ _)).trans rfl
  unfold Changes table
  rw [htokens, hcontexts]
  exact changes_refl g

omit [LinearOrder R] in
/-- An entry deletes the token the context object names and issues another. -/
theorem enter_tokens (g : Gateway R) (now : Int) (uuid : String) (socket : SocketId)
    (ctx : SocketContext) (roomId other : String) :
    (g.enter now uuid socket ctx roomId).reconnectTokens.get other =
      if other = uuid then some ⟨ctx.playerId, roomId, now + reconnectTtlMs⟩
      else if ctx.reconnectToken = some other then none else g.reconnectTokens.get other := by
  have hissue : ∀ g : Gateway R,
      (g.issueReconnectToken now uuid socket ctx roomId).reconnectTokens.get other =
        if other = uuid then some ⟨ctx.playerId, roomId, now + reconnectTtlMs⟩
        else if ctx.reconnectToken = some other then none else g.reconnectTokens.get other := by
    intro g
    have hmodify : ∀ (g : Gateway R) f,
        (g.modifyContext socket f).reconnectTokens = g.reconnectTokens := by
      intro g f
      unfold Gateway.modifyContext
      split <;> rfl
    unfold Gateway.issueReconnectToken
    dsimp only
    rw [hmodify, JsMap.get_set]
    congr 1
    cases ctx.reconnectToken with
    | none => rfl
    | some old =>
      refine (JsMap.get_delete _ _ _).trans (if_congr ?_ rfl rfl)
      exact ⟨fun heq => congrArg some heq.symm, fun heq => (Option.some.inj heq).symm⟩
  have hsubscribe : ∀ (g : Gateway R) session,
      (g.subscribe roomId session).reconnectTokens = g.reconnectTokens := by
    intro g session
    unfold Gateway.subscribe
    split <;> rfl
  unfold Gateway.enter
  dsimp only
  rw [hissue, hsubscribe]

omit [LinearOrder R] in
theorem changes_enter {g : Gateway R} (now : Int) (uuid : String) {socket : SocketId}
    {ctx : SocketContext} (roomId : String) (hctx : g.contexts.get socket = some ctx) :
    Changes g (g.enter now uuid socket ctx roomId)
      [.issued uuid socket ⟨ctx.playerId, roomId, now + reconnectTtlMs⟩] := by
  refine .issued (fun other entry hget => ?_) fun i => ?_
  · change (g.enter now uuid socket ctx roomId).reconnectTokens.get other = some entry at hget
    rw [enter_tokens] at hget
    split at hget
    next heq =>
      cases hget
      exact Or.inl ⟨heq, rfl⟩
    next hne =>
      split at hget
      next => cases hget
      next hheld =>
        refine Or.inr ⟨hne, ?_, hget⟩
        change (g.contexts.get socket).bind SocketContext.reconnectToken ≠ some other
        rw [hctx]
        exact hheld
  · change ((g.enter now uuid socket ctx roomId).contexts.get i).bind SocketContext.reconnectToken = _
    rw [Gateway.contexts_enter]
    split
    next heq =>
      rw [heq, hctx]
      rfl
    next => rfl

omit [LinearOrder R] in
theorem changes_joinSessionRoom {g : Gateway R} (now : Int) (uuid : String) {socket : SocketId}
    {ctx : SocketContext} (roomId : String) (room : RoomEntity)
    (hctx : g.contexts.get socket = some ctx) :
    Changes g (g.joinSessionRoom now uuid socket ctx roomId (some room)).1
      (if Gateway.Admits ctx.playerId room then
        [.issued uuid socket ⟨ctx.playerId, roomId, now + reconnectTtlMs⟩] else []) := by
  unfold Gateway.joinSessionRoom getRoom
  dsimp only
  split
  next hmember =>
    rw [if_neg fun hadmits : Gateway.Admits ctx.playerId room => hmember hadmits.1]
    exact changes_of_core (Gateway.core_sendError _ _ _ _)
  next hmember =>
    split
    next hstatus =>
      rw [if_neg]
      · exact changes_of_core (Gateway.core_sendError _ _ _ _)
      · intro hadmits
        have hclosed := hadmits.2
        cases hroom : room.status <;> simp [hroom] at hstatus hclosed
    next hstatus =>
      rw [if_pos]
      · exact changes_enter now uuid roomId hctx
      · refine ⟨Classical.not_not.mp hmember, fun hclosed => hstatus ?_⟩
        rw [hclosed]
        exact ⟨by decide, by decide⟩

/-- What one stretch of a frame's handler does to the table is what is recorded of it. -/
theorem changes_frame {rt : Runtime R} {g : Gateway R} {now : Int} {uuid : String}
    {socket : SocketId} {ctx : SocketContext} {pc : FramePc} {answer : Answer}
    {result : Gateway R × Outcome FramePc} (hctx : g.contexts.get socket = some ctx)
    (h : g.resumeFrame rt now uuid socket ctx pc answer = some result) :
    Changes g result.1 (frameEvents rt g now uuid socket ctx pc answer) := by
  unfold Gateway.resumeFrame at h
  split at h
  next =>
    cases h
    cases pc <;> exact changes_refl g
  next raw allowed =>
    cases h
    cases allowed with
    | false => exact changes_of_core (Gateway.core_sendError _ _ _ _)
    | true =>
      simp only [Gateway.onMessageLimited, frameEvents, not_true_eq_false, if_false]
      cases hparse : rt.jsonParse raw with
      | none => exact changes_of_core (Gateway.core_sendError _ _ _ _)
      | some parsed =>
        simp only [Option.bind_some]
        cases hschema : clientMessageSchema parsed with
        | none => exact changes_of_core (Gateway.core_sendError _ _ _ _)
        | some message =>
          cases message with
          | joinSession roomId token => exact changes_joinSession g now socket ctx roomId token
          | _ => exact changes_dispatch fun _ _ heq => by cases heq
  next roomId found =>
    cases h
    cases found with
    | none => exact changes_refl g
    | some room => exact changes_joinSessionRoom now uuid roomId room hctx
  next =>
    cases h
    refine changes_of_core ?_
    unfold Gateway.joinSessionOnline
    split
    next => rfl
    next => exact (Gateway.core_send _ _ _).trans (Gateway.core_send _ _ _)
  next =>
    cases h
    exact changes_of_core (Gateway.core_send _ _ _)
  next => cases h

end Frames

/-- A registration gives a socket its first context object, which names no token. -/
theorem changes_register {g : Gateway R} {socket : SocketId} {payload : AccessTokenPayload}
    (hfresh : g.contexts.get socket = none) : Changes g (g.register socket payload) [] := by
  refine changes_kept (fun token entry hget => ?_) fun i => ?_
  · have htokens : (g.register socket payload).reconnectTokens = g.reconnectTokens := by
      unfold Gateway.register Gateway.replaceExistingSocket
      dsimp only
      split
      next => rfl
      next existing _ =>
        have hclosed := tokens_of_core (Gateway.core_closeSocket g existing)
        exact hclosed
    rwa [htokens] at hget
  · rw [Gateway.contexts_register]
    split
    next heq =>
      rw [heq, hfresh]
      rfl
    next => rfl

variable [Field R] [LinearOrder R] [JsMath R]

theorem changes_step {env : Env R} {rt : Runtime R} {s t : Server R} {event : ServerEvent}
    (h : s.Connecting) (hstep : Server.Moves env rt s t event) :
    Changes s.gateway t.gateway (tokenEvents rt s event) := by
  cases hstep with
  | connected unknown gateway goes =>
    rw [gateway]
    exact changes_refl s.gateway
  | buffered gateway handlers =>
    rw [gateway]
    exact changes_of_core (Gateway.core_modifyWire _ _ _)
  | received gateway goes =>
    rw [gateway]
    exact changes_of_core (Gateway.onMessage_core env _ _ _)
  | ignored same =>
    rw [same]
    exact changes_refl s.gateway
  | frame handler context ran gateway goes =>
    rw [gateway]
    simp only [tokenEvents, handler, Option.bind_some, frameOf, context]
    exact changes_frame context ran
  | @connection number now uuid answer socket pc call wire result handler known ran gateway goes =>
    rw [gateway]
    rcases ran.core with ⟨hplace, hcore | ⟨rfl, payload, hresult⟩⟩ |
      ⟨framePc, ctx, after, hplace, hctx, hframe, hcore⟩
    · have hnone : frameOf (.connection socket pc) = none := by cases pc <;> first | rfl | cases hplace
      simp only [tokenEvents, handler, Option.bind_some, hnone]
      exact changes_of_core hcore
    · simp only [tokenEvents, handler, Option.bind_some, frameOf]
      rw [hresult]
      exact changes_register (h.fresh number socket ⟨call, handler⟩).1
    · have hframeOf : frameOf (.connection socket pc) = some (socket, framePc) := by
        cases pc <;> cases hplace
        rfl
      simp only [tokenEvents, handler, Option.bind_some, hframeOf, hctx]
      have hchanges := changes_frame hctx hframe
      unfold Changes at hchanges ⊢
      rwa [table_of_core hcore]
  | @offline number now uuid answer socket call handler gateway goes =>
    rw [gateway]
    simp only [tokenEvents, handler, Option.bind_some, frameOf]
    exact changes_refl s.gateway
  | @closed socket wire g known listens wired gateway goes =>
    obtain ⟨byPlayer, sessions, hcore, -⟩ := Gateway.onClose_core g socket
    have hwired : g.core = s.gateway.core := by
      rw [wired]
      exact Gateway.core_modifyWire _ _ _
    have htable : table t.gateway = table s.gateway := by
      rw [gateway, ← table_of_core hwired]
      unfold table
      have htokens : (g.onClose socket).1.reconnectTokens = g.reconnectTokens := by
        have heq := congrArg Gateway.reconnectTokens hcore
        exact heq
      rw [htokens, Gateway.onClose_contexts]
    unfold Changes
    rw [htable]
    exact changes_refl s.gateway
  | unheard known deaf gateway handlers =>
    rw [gateway]
    exact changes_of_core (Gateway.core_modifyWire _ _ _)
  | @ticked session now object current running gateway handlers =>
    obtain ⟨new, heq, -⟩ := Gateway.tick_broadcasts env s.gateway now session object
    rw [gateway, heq]
    exact changes_refl s.gateway
  | destroyed gateway handlers =>
    rw [gateway]
    exact changes_refl s.gateway
  | shutDown gateway handlers =>
    have hclosed := Gateway.core_foldl Gateway.closeSocket Gateway.core_closeSocket
      s.gateway.sockets s.gateway
    rw [gateway]
    unfold Changes
    have htable := table_of_core hclosed
    unfold table at htable
    unfold table
    dsimp only at htable ⊢
    rw [htable]
    exact changes_refl s.gateway

/-- Along every run that draws no token twice: a token passes the check at most once, on
a connection of its player, for its room and before it expires, and not after another
has been issued on its connection; the table holds one token of a connection at most. -/
theorem reconnect_tokens_used_once (env : Env R) (rt : Runtime R) (events : List ServerEvent)
    (hfresh : (recorded env rt).StepsMeet (fun p event => freshUuid rt p event)
      (Server.empty, []) events) :
    (recorded env rt).Along (fun p => Tickets.UsedOnce Honours (table p.1.gateway) p.2)
      (Server.empty, []) events := by
  have hempty : Tickets.Ledger Honours (table (Server.empty : Server R).gateway)
      ([] : List TokenEvent) := Tickets.ledger_empty Honours fun _ => rfl
  have hkeep : ∀ (p : Server R × List TokenEvent) event q,
      (p.1.Connecting ∧ Tickets.Ledger Honours (table p.1.gateway) p.2) → True →
      (recorded env rt).step p event = some q → freshUuid rt p event →
      q.1.Connecting ∧ Tickets.Ledger Honours (table q.1.gateway) q.2 := by
    intro p event q ⟨hconnecting, hledger⟩ _ hrecorded hguard
    obtain ⟨hstep, hhistory⟩ := Machine.recording_step hrecorded
    have hmoves := Server.moves hstep
    refine ⟨hconnecting.step hmoves.connects, ?_⟩
    rw [hhistory]
    refine hledger.step (changes_step hconnecting hmoves) fun token hissues => ?_
    exact of_decide_eq_true (List.all_eq_true.mp hguard token hissues)
  exact (Machine.along_of_guarded hkeep (fun _ _ => trivial)
    ⟨Server.connecting_empty, hempty⟩ hfresh).mono fun _ h => h.2.usedOnce

/-- A `join_session` frame that gives a token. -/
def rejoinText : String :=
  "\x7b\"type\":\"join_session\",\"roomId\":\"" ++ arena ++
    "\",\"reconnectToken\":\"reconnect-1\"\x7d"

/-- What `JSON.parse` makes of it. -/
def rejoinFrame : Json ℝ :=
  .obj fun key => if key = "reconnectToken" then some (.str "reconnect-1") else joinFrame.field key

/-- A platform on which the two frames are JSON. -/
def runtime : Runtime ℝ where
  jsonParse raw :=
    if raw = joinText then some joinFrame
    else if raw = rejoinText then some rejoinFrame
    else none
  queryToken _ := some none
  verifyAccessToken token := if token = "token-1" then some ⟨"u1", "p1", "nova"⟩ else none

/-- The lobby finds the room, with the player among its members. -/
def found (number : Nat) (now : Int) (uuid : String) : ServerEvent :=
  .answer number now uuid (.room (some ⟨arena, "ABC123", "Arena", "p1", 4, .waiting,
    [⟨"m1", arena, "p1", "nova", false, 0⟩]⟩))

/-- The player joins, and joins again on a second connection with the token of the first. -/
def reconnecting : List ServerEvent :=
  [.connect 0 request, .answer 0 0 "" (.limit true), .answer 0 0 "" .done,
    .frame 0 joinText, .answer 1 0 "" (.limit true), found 1 0 "reconnect-1", .answer 1 0 "" .done,
    .connect 1 request, .answer 2 1000 "" (.limit true), .answer 2 1000 "" .done,
    .frame 1 rejoinText, .answer 3 1000 "" (.limit true), found 3 1000 "reconnect-2",
    .answer 3 1000 "" .done]

set_option maxRecDepth 4000 in
/-- The run draws no token twice, and the first token passes. -/
theorem reconnect_once :
    ((recorded defaultEnv runtime).StepsMeet (fun p event => freshUuid runtime p event)
        (Server.empty, []) reconnecting ∧
      (recorded defaultEnv runtime).Along
        (fun p => Tickets.UsedOnce Honours (table p.1.gateway) p.2) (Server.empty, []) reconnecting) ∧
    ((recorded defaultEnv runtime).exec (Server.empty, []) reconnecting).map Prod.snd =
      some [.issued "reconnect-1" 0 ⟨"p1", arena, 300000⟩,
        .used "reconnect-1" ⟨1, "p1", arena, 1000⟩,
        .issued "reconnect-2" 1 ⟨"p1", arena, 301000⟩] := by
  have hfresh : (recorded defaultEnv runtime).StepsMeet
      (fun p event => freshUuid runtime p event) (Server.empty, []) reconnecting :=
    Machine.stepsMeet_iff_checks.mpr rfl
  exact ⟨⟨hfresh, reconnect_tokens_used_once defaultEnv runtime reconnecting hfresh⟩, rfl⟩

end RealtimeGameServer.Guarantees.ReconnectTokens
