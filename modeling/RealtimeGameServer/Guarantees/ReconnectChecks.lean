import RealtimeGameServer.Guarantees.ReconnectTokens
import RealtimeGameServer.Lib.TicketDesk

/-!
# Which reconnect tokens are accepted

A token that was issued on a connection is accepted later if and only if its player shows it
for its room before it expires, no later join of that connection has replaced it, and nobody
has shown it since it was issued. Nothing else takes it away: not the purges of the joins of
others, not that its connection is closed or replaced.
-/
namespace RealtimeGameServer.Guarantees.ReconnectChecks
open Lib TicketDesk Source
open DeadConnections (frameOf tokens_of_core)
open ReconnectTokens (Check Honours table table_of_core contexts_of_core enter_tokens usable_purge
  honours_of_not_refused)

abbrev CheckEvent := DeskEvent String SocketId ReconnectEntry Check

/-- The tokens that have not expired. -/
def Unexpired (now : Int) (entry : ReconnectEntry) : Prop := now < entry.expiresAt

/-- Whether a stretch of a handler ends at another call. -/
def goesOn {Pc : Type} : Outcome Pc → Bool
  | .awaiting _ _ => true
  | _ => false

variable {R : Type}

/-- The token a `joinSession` is shown, and whether it goes on to the lobby. -/
def shown (g : Gateway R) (now : Int) (socket : SocketId) (ctx : SocketContext) (roomId : String)
    (reconnectToken : Option String) : List CheckEvent :=
  (reconnectToken.filter (· ≠ "")).toList.map fun token =>
    .checked token ⟨socket, ctx.playerId, roomId, now⟩
      (goesOn (g.joinSession now socket ctx roomId reconnectToken).2)

section Recording
variable [Field R] [LinearOrder R] [JsMath R]

/-- What a stretch of `onMessage` does with the tokens. -/
def frameEvents (rt : Runtime R) (g : Gateway R) (now : Int) (uuid : String) (socket : SocketId)
    (ctx : SocketContext) : FramePc → Answer → List CheckEvent
  | .rateLimited raw, .limit true =>
    match (rt.jsonParse raw).bind clientMessageSchema with
    | some (.joinSession roomId reconnectToken) => shown g now socket ctx roomId reconnectToken
    | _ => []
  | .roomLookup roomId, .room (some room) =>
    if Gateway.Admits ctx.playerId room then
      [.issued uuid socket ⟨ctx.playerId, roomId, now + reconnectTtlMs⟩]
    else []
  | _, _ => []

/-- What an event of the server does with the tokens. -/
def checkEvents (rt : Runtime R) (s : Server R) : ServerEvent → List CheckEvent
  | .answer number now uuid answer =>
    match (s.handlers.get number).bind fun suspended => frameOf suspended.handler with
    | none => []
    | some (socket, pc) =>
      match s.gateway.contexts.get socket with
      | none => []
      | some ctx => frameEvents rt s.gateway now uuid socket ctx pc answer
  | _ => []

/-- The server with the record of the tokens it issues and checks. -/
def recorded (env : Env R) (rt : Runtime R) : Machine (Server R × List CheckEvent) ServerEvent :=
  (Server.machine env rt).recording (checkEvents rt)

/-- `randomUUID` draws no token a second time. -/
def freshUuid (rt : Runtime R) (p : Server R × List CheckEvent) (event : ServerEvent) : Bool :=
  ((checkEvents rt p.1 event).filterMap issues).all fun token => token ∉ p.2.filterMap issues

end Recording

/-- The clock as the handlers read it. -/
def answeredAt : ServerEvent → Option Int
  | .answer _ now _ _ => some now
  | _ => none

theorem serves_of_eq {clock : Int} {g g' : Gateway R} (h : table g' = table g) :
    Serves (Unexpired clock) Honours (table g) (table g') [] := by
  rw [h]
  exact .idle (fun _ _ hget => hget) (fun _ _ hget _ => hget) rfl

/-- A purge drops no token that has not expired. -/
theorem purge_kept {g : Gateway R} {now : Int} {token : String} {entry : ReconnectEntry}
    (h : g.reconnectTokens.get token = some entry) (hlive : Unexpired now entry) :
    (g.purgeExpiredReconnectTokens now).reconnectTokens.get token = some entry :=
  JsMap.get_filter_of_keep h (decide_eq_true (not_le.mpr hlive))

/-- The check that the code makes after its purge. -/
theorem refuses_iff {g : Gateway R} {now : Int} {ctx : SocketContext} {roomId token : String}
    (socket : SocketId) :
    (g.purgeExpiredReconnectTokens now).refusesReconnect now ctx roomId token = false ↔
      ∃ entry, g.reconnectTokens.get token = some entry ∧
        Honours entry ⟨socket, ctx.playerId, roomId, now⟩ := by
  constructor
  · intro h
    obtain ⟨entry, hget, hhonours⟩ := honours_of_not_refused socket (by rw [h]; decide)
    exact ⟨entry, usable_purge hget, hhonours⟩
  · rintro ⟨entry, hget, hplayer, hroom, hlive⟩
    have hkept := purge_kept hget hlive
    simp only [Gateway.refusesReconnect, hkept, Bool.or_eq_false_iff, decide_eq_false_iff_not]
    exact ⟨⟨not_le.mpr hlive, not_not.mpr hplayer⟩, not_not.mpr hroom⟩

theorem serves_joinSession (g : Gateway R) (now : Int) (socket : SocketId) (ctx : SocketContext)
    (roomId : String) (reconnectToken : Option String) :
    Serves (Unexpired now) Honours (table g)
      (table (g.joinSession now socket ctx roomId reconnectToken).1)
      (shown g now socket ctx roomId reconnectToken) := by
  unfold shown Gateway.joinSession
  generalize reconnectToken.filter (· ≠ "") = given
  cases given with
  | none =>
    refine .idle (fun _ _ hget => usable_purge hget) (fun _ _ hget hlive => purge_kept hget hlive) ?_
    rfl
  | some token =>
    dsimp only
    generalize hafter : ({ g.purgeExpiredReconnectTokens now with
      reconnectTokens := (g.purgeExpiredReconnectTokens now).reconnectTokens.delete token } :
        Gateway R) = after
    have hget : ∀ other, after.reconnectTokens.get other =
        if other = token then none
        else (g.purgeExpiredReconnectTokens now).reconnectTokens.get other := by
      intro other
      rw [← hafter]
      exact JsMap.get_delete _ _ _
    have hheld : (table after).held = (table g).held := by
      rw [← hafter]
      rfl
    have hchecked : ∀ {passed : Bool} {g' : Gateway R}, g'.core = after.core →
        (passed = true ↔ (g.purgeExpiredReconnectTokens now).refusesReconnect now ctx roomId token =
          false) →
        Serves (Unexpired now) Honours (table g) (table g')
          [.checked token ⟨socket, ctx.playerId, roomId, now⟩ passed] := by
      intro passed g' hcore hpassed
      rw [table_of_core hcore]
      refine .checked (fun _ hhonours => hhonours.2.2) (hpassed.trans (refuses_iff socket))
        ((hget token).trans (if_pos rfl)) (fun other entry hother => ?_)
        (fun other entry hne hother hlive => ?_) hheld
      · change after.reconnectTokens.get other = some entry at hother
        rw [hget] at hother
        split at hother
        next => cases hother
        next => exact usable_purge hother
      · change after.reconnectTokens.get other = some entry
        rw [hget, if_neg hne]
        exact purge_kept hother hlive
    split
    next hrefused =>
      refine hchecked (Gateway.core_sendError _ _ _ _) (iff_of_false Bool.false_ne_true ?_)
      rw [hrefused]
      decide
    next hpassed => exact hchecked rfl (iff_of_true rfl (Bool.not_eq_true _ ▸ hpassed))

section Frames
variable [Field R] [LinearOrder R] [JsMath R]

/-- The other messages touch no token. -/
theorem table_dispatch {g : Gateway R} {now : Int} {socket : SocketId} {ctx : SocketContext}
    {message : ClientMessage R} (h : ∀ roomId token, message ≠ .joinSession roomId token) :
    table (g.dispatch now socket ctx message).1 = table g := by
  have hcontexts := (Gateway.keepsSockets_dispatch g now socket ctx message).contexts
  have htokens : (g.dispatch now socket ctx message).1.reconnectTokens = g.reconnectTokens := by
    cases message with
    | joinSession roomId token => exact absurd rfl (h roomId token)
    | input input =>
      simp only [Gateway.dispatch, Gateway.dispatchInput]
      repeat' split
      all_goals first | rfl | exact (tokens_of_core (Gateway.core_send _ _ _)).trans rfl
    | ping clientTime =>
      simp only [Gateway.dispatch, Gateway.dispatchPing]
      rw [tokens_of_core (Gateway.core_send _ _ _)]
      split <;> rfl
    | heartbeat =>
      simp only [Gateway.dispatch, Gateway.dispatchHeartbeat]
      split <;> rfl
    | requestSnapshot =>
      simp only [Gateway.dispatch, Gateway.dispatchSnapshot]
      repeat' split
      all_goals first | rfl | exact (tokens_of_core (Gateway.core_send _ _ _)).trans rfl
  unfold table
  rw [htokens, hcontexts]

omit [LinearOrder R] in
/-- An entry takes out the token the connection had, and puts in a new one. -/
theorem serves_enter {g : Gateway R} {clock : Int} (now : Int) (uuid : String) {socket : SocketId}
    {ctx : SocketContext} (roomId : String) (hctx : g.contexts.get socket = some ctx) :
    Serves (Unexpired clock) Honours (table g) (table (g.enter now uuid socket ctx roomId))
      [.issued uuid socket ⟨ctx.playerId, roomId, now + reconnectTtlMs⟩] := by
  have hheld : (table g).held socket = ctx.reconnectToken := by
    change (g.contexts.get socket).bind SocketContext.reconnectToken = _
    rw [hctx]
    rfl
  refine .issued (fun other => ?_) fun i => ?_
  · rw [hheld]
    exact enter_tokens g now uuid socket ctx roomId other
  · change ((g.enter now uuid socket ctx roomId).contexts.get i).bind SocketContext.reconnectToken = _
    rw [Gateway.contexts_enter]
    split
    next heq =>
      rw [heq, hctx]
      rfl
    next => rfl

omit [LinearOrder R] in
/-- A member of a room that is open is let in. -/
theorem core_joinSessionRoom_of_admits {g : Gateway R} {now : Int} {uuid : String}
    {socket : SocketId} {ctx : SocketContext} {roomId : String} {room : RoomEntity}
    (h : Gateway.Admits ctx.playerId room) :
    (g.joinSessionRoom now uuid socket ctx roomId (some room)).1.core =
      (g.enter now uuid socket ctx roomId).core := by
  obtain ⟨hmember, hopen⟩ := h
  have hstatus : ¬(room.status ≠ .inProgress ∧ room.status ≠ .waiting) := by
    cases hroom : room.status with
    | closed => exact absurd hroom hopen
    | _ => decide
  simp only [Gateway.joinSessionRoom, getRoom, hmember, not_true_eq_false, if_false, if_neg hstatus]
  rfl

/-- What one stretch of a frame's handler does to the table is what is recorded of it. -/
theorem serves_frame {rt : Runtime R} {g : Gateway R} {now : Int} {uuid : String}
    {socket : SocketId} {ctx : SocketContext} {pc : FramePc} {answer : Answer}
    {result : Gateway R × Outcome FramePc} (hctx : g.contexts.get socket = some ctx)
    (h : g.resumeFrame rt now uuid socket ctx pc answer = some result) :
    Serves (Unexpired now) Honours (table g) (table result.1)
      (frameEvents rt g now uuid socket ctx pc answer) := by
  unfold Gateway.resumeFrame at h
  split at h
  next =>
    cases h
    cases pc <;> exact serves_of_eq rfl
  next raw allowed =>
    cases h
    cases allowed with
    | false => exact serves_of_eq (table_of_core (Gateway.core_sendError _ _ _ _))
    | true =>
      simp only [Gateway.onMessageLimited, frameEvents, not_true_eq_false, if_false]
      cases hparse : rt.jsonParse raw with
      | none => exact serves_of_eq (table_of_core (Gateway.core_sendError _ _ _ _))
      | some parsed =>
        simp only [Option.bind_some]
        cases hschema : clientMessageSchema parsed with
        | none => exact serves_of_eq (table_of_core (Gateway.core_sendError _ _ _ _))
        | some message =>
          cases message with
          | joinSession roomId token => exact serves_joinSession g now socket ctx roomId token
          | _ => exact serves_of_eq (table_dispatch fun _ _ heq => by cases heq)
  next roomId found =>
    cases h
    cases found with
    | none => exact serves_of_eq rfl
    | some room =>
      simp only [frameEvents]
      by_cases hadmits : Gateway.Admits ctx.playerId room
      · rw [if_pos hadmits, table_of_core (core_joinSessionRoom_of_admits hadmits)]
        exact serves_enter now uuid roomId hctx
      · rw [if_neg hadmits]
        rcases Gateway.joinSessionRoom_core g now uuid socket ctx roomId (some room) with
          ⟨_, heq, hadmitted, -⟩ | hcore
        · cases heq
          exact absurd hadmitted hadmits
        · exact serves_of_eq (table_of_core hcore)
  next =>
    cases h
    refine serves_of_eq (table_of_core ?_)
    unfold Gateway.joinSessionOnline
    split
    next => rfl
    next => exact (Gateway.core_send _ _ _).trans (Gateway.core_send _ _ _)
  next =>
    cases h
    exact serves_of_eq (table_of_core (Gateway.core_send _ _ _))
  next => cases h

end Frames

/-- A registration gives a socket its first context object, which names no token. -/
theorem table_register {g : Gateway R} {socket : SocketId} {payload : AccessTokenPayload}
    (hfresh : g.contexts.get socket = none) : table (g.register socket payload) = table g := by
  have htokens : (g.register socket payload).reconnectTokens = g.reconnectTokens := by
    unfold Gateway.register Gateway.replaceExistingSocket
    dsimp only
    split
    next => rfl
    next existing _ =>
      have hclosed := tokens_of_core (Gateway.core_closeSocket g existing)
      exact hclosed
  have hheld : (fun i => ((g.register socket payload).contexts.get i).bind
      SocketContext.reconnectToken) = fun i => (g.contexts.get i).bind SocketContext.reconnectToken := by
    funext i
    rw [Gateway.contexts_register]
    split
    next heq =>
      rw [heq, hfresh]
      rfl
    next => rfl
  unfold table
  rw [htokens, hheld]

theorem table_onClose {g g' : Gateway R} (hcore : g'.core = g.core) (socket : SocketId) :
    table (g'.onClose socket).1 = table g := by
  obtain ⟨byPlayer, sessions, honClose, -⟩ := Gateway.onClose_core g' socket
  have htokens : (g'.onClose socket).1.reconnectTokens = g'.reconnectTokens := by
    have heq := congrArg Gateway.reconnectTokens honClose
    exact heq
  rw [← table_of_core hcore]
  unfold table
  rw [htokens, Gateway.onClose_contexts]

variable [Field R] [LinearOrder R] [JsMath R]

theorem serves_step {env : Env R} {rt : Runtime R} {s t : Server R} {event : ServerEvent}
    {clock : Int} (hclock : ∀ now ∈ answeredAt event, clock = now) (h : s.Connecting)
    (hstep : Server.Moves env rt s t event) :
    Serves (Unexpired clock) Honours (table s.gateway) (table t.gateway) (checkEvents rt s event) := by
  cases hstep with
  | connected unknown gateway goes =>
    rw [gateway]
    exact serves_of_eq rfl
  | buffered gateway handlers =>
    rw [gateway]
    exact serves_of_eq (table_of_core (Gateway.core_modifyWire _ _ _))
  | received gateway goes =>
    rw [gateway]
    exact serves_of_eq (table_of_core (Gateway.onMessage_core env _ _ _))
  | ignored same =>
    rw [same]
    exact serves_of_eq rfl
  | frame handler context ran gateway goes =>
    cases hclock _ rfl
    rw [gateway]
    simp only [checkEvents, handler, Option.bind_some, frameOf, context]
    exact serves_frame context ran
  | @connection number now uuid answer socket pc call wire result handler known ran gateway goes =>
    cases hclock now rfl
    rw [gateway]
    rcases ran.core with ⟨hplace, hcore | ⟨rfl, payload, hresult⟩⟩ |
      ⟨framePc, ctx, after, hplace, hctx, hframe, hcore⟩
    · have hnone : frameOf (.connection socket pc) = none := by cases pc <;> first | rfl | cases hplace
      simp only [checkEvents, handler, Option.bind_some, hnone]
      exact serves_of_eq (table_of_core hcore)
    · simp only [checkEvents, handler, Option.bind_some, frameOf]
      rw [hresult]
      exact serves_of_eq (table_register (h.fresh number socket ⟨call, handler⟩).1)
    · have hframeOf : frameOf (.connection socket pc) = some (socket, framePc) := by
        cases pc <;> cases hplace
        rfl
      simp only [checkEvents, handler, Option.bind_some, hframeOf, hctx]
      rw [table_of_core hcore]
      exact serves_frame hctx hframe
  | @offline number now uuid answer socket call handler gateway goes =>
    rw [gateway]
    simp only [checkEvents, handler, Option.bind_some, frameOf]
    exact serves_of_eq rfl
  | @closed socket wire g known listens wired gateway goes =>
    rw [gateway]
    refine serves_of_eq (table_onClose ?_ socket)
    rw [wired]
    exact Gateway.core_modifyWire _ _ _
  | unheard known deaf gateway handlers =>
    rw [gateway]
    exact serves_of_eq (table_of_core (Gateway.core_modifyWire _ _ _))
  | @ticked session now object current running gateway handlers =>
    obtain ⟨new, heq, -⟩ := Gateway.tick_broadcasts env s.gateway now session object
    rw [gateway, heq]
    exact serves_of_eq rfl
  | destroyed gateway handlers =>
    rw [gateway]
    exact serves_of_eq rfl
  | shutDown gateway handlers =>
    have hclosed := table_of_core (Gateway.core_foldl Gateway.closeSocket Gateway.core_closeSocket
      s.gateway.sockets s.gateway)
    rw [gateway]
    exact serves_of_eq hclosed

/-- In every run that draws no token twice and whose clock does not go back: a token that a
`join_session` shows is accepted if and only if it is the last one issued on some connection,
has not been shown before, was issued to this player for this room, and has not expired. -/
theorem reconnect_decided (env : Env R) (rt : Runtime R) {events : List ServerEvent}
    (hfresh : (recorded env rt).StepsMeet (fun p event => freshUuid rt p event)
      (Server.empty, []) events)
    (hclock : (events.filterMap answeredAt).Pairwise (· ≤ ·)) {s : Server R}
    {history : List CheckEvent}
    (hexec : (recorded env rt).exec (Server.empty, []) events = some (s, history)) :
    ∀ before token check passed later,
      history = before ++ .checked token check passed :: later →
        (passed = true ↔ ∃ socket entry, outstanding before socket = some (token, entry) ∧
          Honours entry check) := by
  have hkeep : ∀ clock (p : Server R × List CheckEvent) event q,
      (p.1.Connecting ∧ Book (Unexpired clock) Honours (table p.1.gateway) p.2) →
      (∀ now ∈ answeredAt event, clock ≤ now) → (recorded env rt).step p event = some q →
      freshUuid rt p event → q.1.Connecting ∧
        Book (Unexpired ((answeredAt event).getD clock)) Honours (table q.1.gateway) q.2 := by
    intro clock p event q ⟨hconnecting, hbook⟩ hlater hrecorded hguard
    obtain ⟨hstep, hhistory⟩ := Machine.recording_step hrecorded
    have hmoves := Server.moves hstep
    have hle : clock ≤ (answeredAt event).getD clock := by
      cases htime : answeredAt event with
      | none => exact le_refl clock
      | some now => exact hlater now htime
    refine ⟨hconnecting.step hmoves.connects, ?_⟩
    rw [hhistory]
    refine (hbook.later fun _ hlive => lt_of_le_of_lt hle hlive).step
      (serves_step (fun now hnow => ?_) hconnecting hmoves) fun token hissues => ?_
    · rw [Option.mem_def.mp hnow, Option.getD_some]
    · exact of_decide_eq_true (List.all_eq_true.mp hguard token hissues)
  obtain ⟨first, hfirst⟩ : ∃ first, ∀ now ∈ events.filterMap answeredAt, first ≤ now := by
    cases htimes : events.filterMap answeredAt with
    | nil => exact ⟨0, fun _ hmem => by cases hmem⟩
    | cons first rest =>
      rw [htimes] at hclock
      refine ⟨first, List.forall_mem_cons.mpr ⟨le_refl first, ?_⟩⟩
      exact (List.pairwise_cons.mp hclock).1
  obtain ⟨last, -, hbook⟩ := Machine.exec_of_clock hkeep hclock hfirst
    ⟨Server.connecting_empty, book_empty _ Honours (fun _ => rfl) fun _ => rfl⟩ hfresh hexec
  intro before token check passed later heq
  exact hbook.decided before _ later heq token check passed rfl

/-- The player of the first connection rejoins on a second one, and shows the token again. -/
def showingTwice : List ServerEvent :=
  ReconnectTokens.reconnecting ++ [.frame 1 ReconnectTokens.rejoinText, .answer 4 2000 "" (.limit true)]

set_option maxRecDepth 4000 in
theorem accepted_once : ∃ s history,
    (recorded defaultEnv ReconnectTokens.runtime).exec (Server.empty, []) showingTwice =
      some (s, history) ∧
    history = [.issued "reconnect-1" 0 ⟨"p1", SessionAccess.arena, 300000⟩,
      .checked "reconnect-1" ⟨1, "p1", SessionAccess.arena, 1000⟩ true,
      .issued "reconnect-2" 1 ⟨"p1", SessionAccess.arena, 301000⟩,
      .checked "reconnect-1" ⟨1, "p1", SessionAccess.arena, 2000⟩ false] ∧
    ∀ before token check passed later,
      history = before ++ .checked token check passed :: later →
        (passed = true ↔ ∃ socket entry, outstanding before socket = some (token, entry) ∧
          Honours entry check) := by
  have hfresh : (recorded defaultEnv ReconnectTokens.runtime).StepsMeet
      (fun p event => freshUuid ReconnectTokens.runtime p event) (Server.empty, []) showingTwice :=
    Machine.stepsMeet_iff_checks.mpr rfl
  refine ⟨_, _, rfl, rfl, ?_⟩
  exact reconnect_decided defaultEnv ReconnectTokens.runtime hfresh (by decide) rfl

end RealtimeGameServer.Guarantees.ReconnectChecks
