import RealtimeGameServer.Guarantees.SessionAccess
import RealtimeGameServer.Guarantees.SharedRedis
import RealtimeGameServer.Source.DeploymentSteps

/-!
# Presence and connections

A player may connect again while the close of an older connection is still being told to
Redis. Since commands run in the order in which they are sent, and only the close of the
registered socket sends `setOffline`, the last word about a connected player is that the
player is online. Conversely Redis hears of a player only from sockets that came with a
token of that player.
-/
namespace RealtimeGameServer.Guarantees.ConnectedPresence
open Lib Source RedisStore Deployment
open SharedRedis (Regular onlineUntil)

variable {R : Type}

/-- What a command tells of the player: online or offline. -/
def word (playerId : String) : RedisStore.Call → Option Bool
  | .setOnline other _ _ | .heartbeat other _ _ => if other = playerId then some true else none
  | .setOffline other => if other = playerId then some false else none
  | _ => none

def heard (playerId : String) : RedisEvent → Option Bool
  | .call _ call => word playerId call
  | _ => none

/-- The client gives up on no command about the player. -/
def KeepsWord (playerId : String) (c : Deployment R × List Note) : DeploymentEvent → Prop
  | .refuse => ∀ issued, c.1.issued.head? = some issued → word playerId issued.call = none
  | _ => True

/-- What Redis has heard of the player, and what it is still to hear. -/
def words (playerId : String) (s : Deployment R) (notes : List Note) : List Bool :=
  (ran notes).filterMap (heard playerId) ++
    s.issued.filterMap fun issued => word playerId issued.call

/-- What Redis has heard of the player without that the client knows it. -/
def unknown (playerId : String) (s : Deployment R) : List Bool :=
  (s.replies.filter fun reply => reply.answer.isSome).filterMap fun reply =>
    word playerId reply.call

theorem word_redis {playerId : String} {call : ExternalCall} {lastSeen : Int}
    {command : RedisStore.Call} (h : call.redis lastSeen = some command) {b : Bool}
    (hword : word playerId command = some b) :
    (b = true ∧ ((∃ roomId, call = .setOnline playerId roomId) ∨
      ∃ roomId, call = .heartbeat playerId roomId)) ∨
    b = false ∧ call = .setOffline playerId := by
  cases call with
  | setOnline other roomId =>
    cases h
    obtain ⟨rfl, heq⟩ := Option.ite_none_right_eq_some.mp hword
    cases heq
    exact Or.inl ⟨rfl, Or.inl ⟨roomId, rfl⟩⟩
  | heartbeat other roomId =>
    cases h
    obtain ⟨rfl, heq⟩ := Option.ite_none_right_eq_some.mp hword
    cases heq
    exact Or.inl ⟨rfl, Or.inr ⟨roomId, rfl⟩⟩
  | setOffline other =>
    cases h
    obtain ⟨rfl, heq⟩ := Option.ite_none_right_eq_some.mp hword
    cases heq
    exact Or.inr ⟨rfl, rfl⟩
  | consume =>
    cases h
    cases hword
  | _ => cases h

theorem heard_eq (playerId : String) (event : RedisEvent) :
    heard playerId event = (onlineUntil playerId event).map Option.isSome := by
  cases event with
  | call now call =>
    cases call with
    | setOnline other | heartbeat other =>
      simp only [heard, word, onlineUntil]
      split <;> rfl
    | setOffline other =>
      simp only [heard, word, onlineUntil]
      split <;> rfl
    | _ => rfl
  | _ => rfl

theorem byPlayer_modifyWire (g : Gateway R) (socket : SocketId) (f : Wire → Wire) :
    (g.modifyWire socket f).socketsByPlayer = g.socketsByPlayer := by
  unfold Gateway.modifyWire
  split <;> rfl

section Server
variable [Field R] [LinearOrder R] [JsMath R] {env : Env R} {rt : Runtime R} {s t : Server R}
  {event : ServerEvent}

/-- Whoever tells that a player is offline leaves no socket of the player registered. -/
theorem unregistered_of_offline (hs : s.Owns env)
    (hstep : (Server.machine env rt).step s event = some t) {number : Nat} {handler : Handler}
    {playerId : String} (hturn : s.turn event = some number)
    (hget : t.handlers.get number = some ⟨handler, .setOffline playerId⟩) :
    t.gateway.socketsByPlayer.get playerId = none := by
  have hmoves := Server.moves hstep
  have hidle : ∀ {handlers : JsMap Nat Suspended}, t.handlers = handlers → handlers = s.handlers →
      number = s.started → t.gateway.socketsByPlayer.get playerId = none := by
    rintro _ rfl hsame rfl
    rw [hsame, hs.unstarted _ le_rfl] at hget
    cases hget
  cases hmoves with
  | connected unknown gateway goes =>
    cases hturn
    obtain ⟨-, hnext⟩ := Server.connect_budget hstep
    cases hget.symm.trans hnext
  | buffered gateway handlers => exact hidle rfl handlers (Option.some.inj hturn).symm
  | received gateway goes =>
    cases hturn
    rw [goes s.started, if_pos rfl] at hget
    obtain ⟨pc, call, hout, heq⟩ := Outcome.next_eq_some hget
    cases heq
    obtain ⟨_, -, hcall⟩ := Gateway.onMessage_asks hout
    cases hcall
  | ignored same =>
    exact hidle rfl (congrArg Server.handlers same) (Option.some.inj hturn).symm
  | frame handler context ran gateway goes =>
    cases hturn
    rw [goes _, if_pos rfl] at hget
    obtain ⟨pc, call, hout, heq⟩ := Outcome.next_eq_some hget
    cases heq
    cases Gateway.resumeFrame_asks ran hout
  | connection handler known ran gateway goes =>
    cases hturn
    rw [goes _, if_pos rfl] at hget
    obtain ⟨pc, call, hout, heq⟩ := Outcome.next_eq_some hget
    cases heq
    cases ran with
    | registered => cases hout
    | listening =>
      rcases Gateway.drainEarly_asks hout with hcall | ⟨-, _, -, hcall⟩ <;> cases hcall
    | @early rest framePc answer ctx result context ran =>
      obtain ⟨after, outcome⟩ := result
      cases outcome with
      | awaiting framePc' call' =>
        cases hout
        cases Gateway.resumeFrame_asks ran rfl
      | _ => cases hout
    | drained =>
      rcases Gateway.drainEarly_asks hout with hcall | ⟨-, _, -, hcall⟩ <;> cases hcall
    | _ => cases hout
  | offline handler gateway goes =>
    cases hturn
    rw [goes _, if_pos rfl] at hget
    cases hget
  | @closed socket wire g known listens wired gateway goes =>
    cases hturn
    rw [goes _, if_pos rfl] at hget
    obtain ⟨pc, call, hout, heq⟩ := Outcome.next_eq_some hget
    cases heq
    obtain ⟨other, howner, hcall⟩ := Gateway.onClose_asks hout
    cases hcall
    have hregistry : g.Registry := by
      rw [wired]
      refine hs.connecting.registry.wires (Gateway.core_modifyWire _ _ _) fun i hsome => ?_
      rwa [Server.isSome_shut_closed]
    rw [gateway, Gateway.byPlayer_onClose hregistry, if_pos howner]
  | unheard known deaf gateway handlers => exact hidle rfl handlers (Option.some.inj hturn).symm
  | ticked => cases hturn
  | destroyed => cases hturn
  | shutDown => cases hturn

/-- A socket is registered for a player together with the word that the player is online. -/
theorem registered_online (hs : s.Owns env) (hstep : (Server.machine env rt).step s event = some t)
    {playerId : String} {socket : SocketId}
    (hsocket : t.gateway.socketsByPlayer.get playerId = some socket) :
    (∃ other, s.gateway.socketsByPlayer.get playerId = some other) ∨
      ∃ number handler, s.turn event = some number ∧
        t.handlers.get number = some ⟨handler, .setOnline playerId none⟩ := by
  have hmoves := Server.moves hstep
  have hsame : s.gateway.SameConnections t.gateway →
      ∃ other, s.gateway.socketsByPlayer.get playerId = some other := by
    intro hconnections
    rw [hconnections.byPlayer] at hsocket
    exact ⟨socket, hsocket⟩
  cases hmoves.connects with
  | kept same limited => exact Or.inl (hsame same)
  | connected unknown gateway limited =>
    rw [gateway] at hsocket
    exact Or.inl ⟨socket, hsocket⟩
  | @registered number now uuid i wire payload pending known authenticated gateway limited =>
    rw [gateway, Gateway.byPlayer_register] at hsocket
    split at hsocket
    next hplayer =>
      subst hplayer
      refine Or.inr ⟨number, .connection i .online, rfl, ?_⟩
      obtain ⟨call, hpending⟩ := pending
      cases hmoves with
      | frame handler => cases handler.symm.trans hpending
      | offline handler => cases handler.symm.trans hpending
      | connection handler known' ran gateway' goes =>
        cases handler.symm.trans hpending
        cases known'.symm.trans known
        rw [goes _, if_pos rfl]
        cases ran with
        | unauthenticated denied => cases denied.symm.trans authenticated
        | registered authenticated' =>
          cases authenticated'.symm.trans authenticated
          rfl
    next => exact Or.inl ⟨socket, hsocket⟩
  | @closed i wire g known listens wired gateway limited =>
    have hregistry : g.Registry := by
      rw [wired]
      refine hs.connecting.registry.wires (Gateway.core_modifyWire _ _ _) fun i hsome => ?_
      rwa [Server.isSome_shut_closed]
    have hbyPlayer : g.socketsByPlayer = s.gateway.socketsByPlayer := by
      rw [wired, byPlayer_modifyWire]
    rw [gateway, Gateway.byPlayer_onClose hregistry] at hsocket
    split at hsocket
    next => cases hsocket
    next =>
      rw [hbyPlayer] at hsocket
      exact Or.inl ⟨socket, hsocket⟩
  | unheard known deaf gateway limited =>
    rw [gateway, byPlayer_modifyWire] at hsocket
    exact Or.inl ⟨socket, hsocket⟩

end Server

theorem filterMap_one {α β : Type*} (f : α → Option β) (a : α) : [a].filterMap f = (f a).toList := by
  rw [List.filterMap_cons]
  cases f a <;> rfl

/-- Hearing once more what was heard last changes nothing. -/
theorem getLast?_repeat {α : Type*} {all again : List α} (h : again <:+ all) (later : List α) :
    (all ++ (again ++ later)).getLast? = (all ++ later).getLast? := by
  obtain ⟨front, rfl⟩ := h
  simp only [List.getLast?_append]
  cases later.getLast? with
  | some last => rfl
  | none => cases again.getLast? <;> rfl

theorem issue_eq {s : Deployment R} {event : ServerEvent} {server : Server R} {number : Nat}
    {suspended : Suspended} {call : RedisStore.Call} (hturn : s.server.turn event = some number)
    (hget : server.handlers.get number = some suspended)
    (hcall : suspended.call.redis event.now = some call) :
    s.issue event server = [⟨number, call⟩] := by
  rw [issue, hturn, Option.bind_some, hget, Option.bind_some, hcall]
  rfl

variable [Field R] [LinearOrder R] [JsMath R] {env : Env R} {rt : Runtime R}

/-- A step of the server has the last word about a player who is connected after it, if
there has been none. -/
theorem last_turn {s : Deployment R} (h : s.Sound env) {event : ServerEvent} {server : Server R}
    (hran : (Server.machine env rt).step s.server event = some server) {playerId : String}
    {before : List Bool} (hbefore : ∀ socket,
      s.server.gateway.socketsByPlayer.get playerId = some socket → before.getLast? = some true)
    {socket : SocketId} (hsocket : server.gateway.socketsByPlayer.get playerId = some socket) :
    (before ++ (s.issue event server).filterMap fun issued => word playerId issued.call).getLast? =
      some true := by
  -- a player who is new is announced in this very step
  have hnew : ((s.issue event server).filterMap fun issued => word playerId issued.call) = [] →
      before.getLast? = some true := by
    intro hsilent
    rcases registered_online h.owns hran hsocket with ⟨other, hother⟩ | ⟨number, handler, hturn, hget⟩
    · exact hbefore other hother
    · rw [issue_eq hturn hget rfl, filterMap_one, word, if_pos rfl] at hsilent
      cases hsilent
  rcases issue_subsingleton s event server with hnone | ⟨issued, hone⟩
  · rw [hnone, List.filterMap_nil, List.append_nil]
    exact hnew (by rw [hnone, List.filterMap_nil])
  · rw [hone, filterMap_one] at hnew ⊢
    have hmem : issued ∈ s.issue event server := by
      rw [hone]
      exact List.mem_singleton_self issued
    obtain ⟨⟨handler, call⟩, hturn, hget, hredis⟩ := mem_issue hmem
    cases hword : word playerId issued.call with
    | none =>
      rw [hword] at hnew
      rw [Option.toList_none, List.append_nil]
      exact hnew rfl
    | some b =>
      rcases word_redis hredis hword with ⟨rfl, -⟩ | ⟨rfl, rfl⟩
      · exact List.getLast?_concat
      · cases (unregistered_of_offline h.owns hran hturn hget).symm.trans hsocket

/-- The last word about a connected player, heard or on its way, is that the player is
online; and what Redis has heard without that the client knows it, it has heard last. -/
structure Spoken (env : Env R) (playerId : String) (s : Deployment R) (notes : List Note) :
    Prop where
  sound : s.Sound env
  again : unknown playerId s <:+ (ran notes).filterMap (heard playerId)
  last : ∀ socket, s.server.gateway.socketsByPlayer.get playerId = some socket →
    (words playerId s notes).getLast? = some true

omit [JsMath R] in
theorem spoken_start (env : Env R) (playerId : String) (redis : Database) (clock : Int) :
    Spoken env playerId (Deployment.start redis clock) [] where
  sound := sound_start env redis clock
  again := List.suffix_rfl
  last socket h := by cases h

theorem Spoken.step {playerId : String} {s t : Deployment R} {notes : List Note}
    {event : DeploymentEvent} (h : Spoken env playerId s notes)
    (hkeeps : KeepsWord playerId (s, notes) event) (hsteps : Steps env rt s event t) :
    Spoken env playerId t (notes ++ note s event) := by
  have hsound := h.sound.step hsteps
  have hsilent : (∀ now, event ≠ .execute now) → (∀ redis, event ≠ .redis redis) →
      ran (notes ++ note s event) = ran notes := by
    intro hexecute hredis
    rw [ran_append, ran_note hexecute hredis, List.append_nil]
  cases hsteps with
  | @gateway event server unanswered ran =>
    have hran := hsilent (fun _ heq => by cases heq) fun _ heq => by cases heq
    refine ⟨hsound, by rw [hran]; exact h.again, fun socket hsocket => ?_⟩
    rw [words, hran, List.filterMap_append, ← List.append_assoc]
    exact last_turn h.sound ran h.last hsocket
  | @executed now next rest redis head later ran =>
    have hnote : note s (.execute now) = [.ran (.call now next.call)] := by
      rw [note, head]
      rfl
    have hheard : (Deployment.ran (notes ++ note s (.execute now))).filterMap (heard playerId) =
        (Deployment.ran notes).filterMap (heard playerId) ++ (word playerId next.call).toList := by
      rw [hnote, ran_append, List.filterMap_append]
      exact congrArg _ (filterMap_one _ _)
    refine ⟨hsound, ?_, fun socket hsocket => ?_⟩
    · rw [hheard, unknown, List.filter_append, List.filterMap_append]
      have hlast : ([⟨next, now, some (answerOf s.redis now next.call)⟩] : List Reply).filter
          (fun reply => reply.answer.isSome) = [⟨next, now, some (answerOf s.redis now next.call)⟩] :=
        rfl
      rw [hlast, filterMap_one]
      obtain ⟨front, hfront⟩ := h.again
      refine ⟨front, ?_⟩
      rw [← List.append_assoc]
      exact congrArg (· ++ _) hfront
    · have hwords := h.last socket hsocket
      rw [words, head, List.filterMap_cons] at hwords
      rw [words, hheard, List.append_assoc]
      cases hword : word playerId next.call with
      | none =>
        rw [hword] at hwords
        exact hwords
      | some b =>
        rw [hword] at hwords
        exact hwords
  | @refused next rest head =>
    have hran := hsilent (fun _ heq => by cases heq) fun _ heq => by cases heq
    have hword : word playerId next.call = none := hkeeps next (by rw [head]; rfl)
    refine ⟨hsound, ?_, fun socket hsocket => ?_⟩
    · rw [hran, unknown, List.filter_append, List.filterMap_append]
      have hlast : ([⟨next, s.clock, none⟩] : List Reply).filter
          (fun reply => reply.answer.isSome) = [] := rfl
      rw [hlast, List.filterMap_nil, List.append_nil]
      exact h.again
    · have hwords := h.last socket hsocket
      rw [words, head, List.filterMap_cons, hword] at hwords
      rw [words, hran]
      exact hwords
  | resent =>
    have hran := hsilent (fun _ heq => by cases heq) fun _ heq => by cases heq
    refine ⟨hsound, ?_, fun socket hsocket => ?_⟩
    · have hnone : unknown playerId { s with
          issued := (s.replies.filter fun reply => reply.answer.isSome).map Reply.toIssued ++ s.issued
          replies := s.replies.filter fun reply => !reply.answer.isSome } = [] := by
        rw [unknown, List.filter_filter, List.filterMap_eq_nil_iff]
        intro reply hmem
        have hboth := (List.mem_filter.mp hmem).2
        rw [Bool.and_not_self] at hboth
        cases hboth
      rw [hnone]
      exact List.nil_suffix
    · rw [words, hran, List.filterMap_append, List.filterMap_map]
      exact (getLast?_repeat h.again _).trans (h.last socket hsocket)
  | @delivered now uuid reply rest event server head answers ran =>
    have hran := hsilent (fun _ heq => by cases heq) fun _ heq => by cases heq
    refine ⟨hsound, ?_, fun socket hsocket => ?_⟩
    · rw [hran]
      refine List.IsSuffix.trans ?_ h.again
      rw [unknown, unknown, head, List.filter_cons]
      split
      next =>
        rw [List.filterMap_cons]
        split
        next => exact List.suffix_rfl
        next => exact List.suffix_cons _ _
      next => exact List.suffix_rfl
    · rw [words, hran, List.filterMap_append, ← List.append_assoc]
      exact last_turn h.sound ran h.last hsocket
  | @foreign event redis other later ran =>
    have hheard : (Deployment.ran (notes ++ note s (.redis event))).filterMap (heard playerId) =
        (Deployment.ran notes).filterMap (heard playerId) := by
      have hnone : heard playerId event = none := by
        cases event with
        | call now call => exact absurd rfl (other now call)
        | _ => rfl
      rw [ran_append, List.filterMap_append]
      change _ ++ [event].filterMap (heard playerId) = _
      rw [filterMap_one, hnone]
      exact List.append_nil _
    refine ⟨hsound, by rw [hheard]; exact h.again, fun socket hsocket => ?_⟩
    rw [words, hheard]
    exact h.last socket hsocket

theorem spoken_exec {playerId : String} {events : List DeploymentEvent}
    {c d : Deployment R × List Note} (h : Spoken env playerId c.1 c.2)
    (hkeeps : (noted env rt).StepsMeet (KeepsWord playerId) c events)
    (hexec : (noted env rt).exec c events = some d) : Spoken env playerId d.1 d.2 := by
  refine (Machine.along_of_guarded (I := fun c => Spoken env playerId c.1 c.2)
    (L := fun _ => True) (fun c event d hc _ hstep hkeep => ?_) (fun _ _ => trivial) h hkeeps).last
    hexec
  obtain ⟨hmachine, hnotes⟩ := Machine.recording_step hstep
  rw [hnotes]
  exact hc.step hkeep (step_cases hmachine)

omit [Field R] [LinearOrder R] [JsMath R] in
theorem regular_of_traced {redis : Database} {s : Deployment R} {notes : List Note}
    (h : Traced redis s notes) {now : Int} (hnow : s.clock ≤ now) : Regular (ran notes) now :=
  ⟨h.ordered, fun event hmem => (h.past event hmem).trans hnow, h.allowed⟩

/-- In every run of the gateway with its Redis in which the client gives up on no command
about a player: when the player has a registered socket and no command about the player is
still to run, the player is online until a minute after the last one ran. -/
theorem connected_online {events : List DeploymentEvent} (haway : KeepsAway events)
    {redis : Database} {clock : Int} {s : Deployment R} {notes : List Note}
    (hexec : (noted env rt).exec (Deployment.start redis clock, []) events = some (s, notes))
    {playerId : String} (hkeeps : (noted env rt).StepsMeet (KeepsWord playerId)
      (Deployment.start redis clock, []) events) {socket : SocketId}
    (hsocket : s.server.gateway.socketsByPlayer.get playerId = some socket)
    (hquiet : ∀ issued ∈ s.issued, word playerId issued.call = none) :
    ∃ limit, ((ran notes).filterMap (onlineUntil playerId)).getLast? = some (some limit) ∧
      ∀ now, s.clock ≤ now → (isOnline s.redis now playerId = true ↔ now < limit) := by
  have hspoken : Spoken env playerId s notes :=
    spoken_exec (spoken_start env playerId redis clock) hkeeps hexec
  have htraced : Traced redis s notes :=
    noted_invariant (I := Traced redis) (fun _ _ _ _ h hallowed hsteps => h.step hallowed hsteps)
      haway (traced_start redis clock) hexec
  have hlast := hspoken.last socket hsocket
  have hissued : (s.issued.filterMap fun issued => word playerId issued.call) = [] :=
    List.filterMap_eq_nil_iff.mpr hquiet
  have hheard : (ran notes).filterMap (heard playerId) =
      ((ran notes).filterMap (onlineUntil playerId)).map Option.isSome := by
    rw [List.map_filterMap]
    exact List.filterMap_congr fun event _ => heard_eq playerId event
  rw [words, hissued, List.append_nil, hheard, List.getLast?_map] at hlast
  obtain ⟨last, hlimit, hsome⟩ := Option.map_eq_some_iff.mp hlast
  obtain ⟨limit, rfl⟩ := Option.isSome_iff_exists.mp hsome
  refine ⟨limit, hlimit, fun now hnow => ?_⟩
  rw [(regular_of_traced htraced hnow).isOnline htraced.exec hlimit]
  simp only [Option.some.injEq, exists_eq_left']

/-- A player connects, and again while the close of the first socket is on its way. -/
def reconnected : List DeploymentEvent :=
  [.gateway (.connect 0 SessionAccess.request), .execute 0, .deliver 0 "", .execute 1,
    .deliver 1 "", .gateway (.connect 1 SessionAccess.request), .gateway (.close 0),
    .execute 100, .deliver 100 "", .execute 101, .execute 102]

theorem reconnected_away : KeepsAway reconnected := by
  intro redis hmem
  simp [reconnected] at hmem

/-- Redis hears of the close, and then of the new connection. -/
theorem reconnected_online : ∃ s notes,
    (noted defaultEnv SessionAccess.runtime).exec (Deployment.start JsMap.empty 0, []) reconnected =
      some (s, notes) ∧ (ran notes).filterMap (heard "p1") = [true, false, true] ∧
    ∃ limit, ((ran notes).filterMap (onlineUntil "p1")).getLast? = some (some limit) ∧
      ∀ now, s.clock ≤ now → (isOnline s.redis now "p1" = true ↔ now < limit) := by
  have hrun : ((noted defaultEnv SessionAccess.runtime).exec (Deployment.start JsMap.empty 0, [])
      reconnected).map (fun c => (c.1.server.gateway.socketsByPlayer.get "p1", c.1.issued.length,
        (ran c.2).filterMap (heard "p1"))) = some (some 1, 0, [true, false, true]) := by
    decide +kernel
  obtain ⟨⟨s, notes⟩, hexec, hparts⟩ := Option.map_eq_some_iff.mp hrun
  obtain ⟨hsocket, hissued, hheard⟩ : s.server.gateway.socketsByPlayer.get "p1" = some 1 ∧
      s.issued.length = 0 ∧ (ran notes).filterMap (heard "p1") = [true, false, true] := by
    simpa using hparts
  have hkeeps : (noted defaultEnv SessionAccess.runtime).StepsMeet (KeepsWord "p1")
      (Deployment.start JsMap.empty 0, []) reconnected := by
    refine .of_labels (fun event hmem c => ?_) _
    simp only [reconnected, List.mem_cons, List.not_mem_nil, or_false] at hmem
    rcases hmem with rfl | rfl | rfl | rfl | rfl | rfl | rfl | rfl | rfl | rfl | rfl <;> trivial
  refine ⟨s, notes, hexec, hheard, connected_online reconnected_away hexec hkeeps hsocket ?_⟩
  intro issued hmem
  rw [List.length_eq_zero_iff.mp hissued] at hmem
  cases hmem

/-- A socket has connected with a token of the player. -/
def Authenticated (rt : Runtime R) (playerId : String) (notes : List Note) : Prop :=
  ∃ socket request payload, Note.connected socket request ∈ notes ∧
    authenticate rt request = some payload ∧ payload.playerId = playerId

omit [Field R] [LinearOrder R] [JsMath R] in
theorem Authenticated.mono {playerId : String} {notes : List Note}
    (h : Authenticated rt playerId notes) (later : List Note) :
    Authenticated rt playerId (notes ++ later) := by
  obtain ⟨socket, request, payload, hmem, hauthenticated⟩ := h
  exact ⟨socket, request, payload, List.mem_append_left _ hmem, hauthenticated⟩

/-- The sockets are those that connected, and whoever has a context object, or has been
spoken of to Redis, has connected with a token. -/
structure Vouched (env : Env R) (rt : Runtime R) (s : Deployment R) (notes : List Note) :
    Prop where
  sound : s.Sound env
  requests : ∀ socket request, s.server.gateway.request socket = some request →
    Note.connected socket request ∈ notes
  players : ∀ socket playerId, s.server.gateway.player socket = some playerId →
    Authenticated rt playerId notes
  heard : ∀ event ∈ ran notes, ∀ playerId b, heard playerId event = some b →
    Authenticated rt playerId notes

omit [JsMath R] in
theorem vouched_start (env : Env R) (rt : Runtime R) (redis : Database) (clock : Int) :
    Vouched env rt (Deployment.start redis clock) [] where
  sound := sound_start env redis clock
  requests socket request h := by cases h
  players socket playerId h := by cases h
  heard event h := by cases h

omit [JsMath R] in
/-- A command in flight is about the player of its socket. -/
theorem Vouched.inFlight {s : Deployment R} {notes : List Note} (h : Vouched env rt s notes)
    {issued : Issued} (hmem : issued ∈ s.inFlight) {playerId : String} {b : Bool}
    (hword : word playerId issued.call = some b) : Authenticated rt playerId notes := by
  obtain ⟨⟨handler, call⟩, lastSeen, hget, hredis⟩ := h.sound.inFlight.waiting issued hmem
  have hown := h.sound.owns.own _ _ hget
  rcases word_redis hredis hword with ⟨-, ⟨roomId, rfl⟩ | ⟨roomId, rfl⟩⟩ | ⟨-, rfl⟩
  · exact h.players _ _ hown
  · exact h.players _ _ hown
  · exact h.players _ _ hown

theorem Vouched.turn {s : Deployment R} {notes : List Note} (h : Vouched env rt s notes)
    {event : ServerEvent} {server : Server R}
    (hran : (Server.machine env rt).step s.server event = some server) (later : List Note)
    (hlater : ∀ socket request, event = .connect socket request →
      Note.connected socket request ∈ later) :
    (∀ socket request, server.gateway.request socket = some request →
      Note.connected socket request ∈ notes ++ later) ∧
    ∀ socket playerId, server.gateway.player socket = some playerId →
      Authenticated rt playerId (notes ++ later) := by
  have hmoves := Server.moves hran
  constructor
  · intro socket request hrequest
    rcases hmoves.requests socket with hsame | ⟨new, rfl, -, hnew⟩
    · exact List.mem_append_left _ (h.requests socket request (hsame.symm.trans hrequest))
    · cases hnew.symm.trans hrequest
      exact List.mem_append_right _ (hlater socket request rfl)
  · intro socket playerId hplayer
    rcases hmoves.connects.players h.sound.owns.connecting socket with
      hsame | ⟨request, payload, hrequest, hauthenticated, -, hnew⟩
    · exact (h.players socket playerId (hsame.symm.trans hplayer)).mono later
    · cases hnew.symm.trans hplayer
      exact ⟨socket, request, payload, List.mem_append_left _ (h.requests socket request hrequest),
        hauthenticated, rfl⟩

omit [JsMath R] in
theorem Vouched.heard_append {s : Deployment R} {notes : List Note}
    (h : Vouched env rt s notes) {later : List Note}
    (hlater : ∀ event ∈ ran later, ∀ playerId b, ConnectedPresence.heard playerId event = some b →
      Authenticated rt playerId notes) :
    ∀ event ∈ ran (notes ++ later), ∀ playerId b,
      ConnectedPresence.heard playerId event = some b → Authenticated rt playerId (notes ++ later) := by
  intro event hmem playerId b hheard
  rw [ran_append] at hmem
  rcases List.mem_append.mp hmem with hold | hnew
  · exact (h.heard event hold playerId b hheard).mono later
  · exact (hlater event hnew playerId b hheard).mono later

theorem Vouched.step {s t : Deployment R} {notes : List Note} {event : DeploymentEvent}
    (h : Vouched env rt s notes) (hsteps : Steps env rt s event t) :
    Vouched env rt t (notes ++ note s event) := by
  have hsound := h.sound.step hsteps
  have hsilent : (∀ now, event ≠ .execute now) → (∀ redis, event ≠ .redis redis) →
      ∀ other ∈ ran (note s event), ∀ playerId b,
        ConnectedPresence.heard playerId other = some b → Authenticated rt playerId notes := by
    intro hexecute hredis other hmem
    rw [ran_note hexecute hredis] at hmem
    cases hmem
  have hkept : (∀ socket request, s.server.gateway.request socket = some request →
        Note.connected socket request ∈ notes ++ note s event) ∧
      ∀ socket playerId, s.server.gateway.player socket = some playerId →
        Authenticated rt playerId (notes ++ note s event) :=
    ⟨fun socket request hrequest => List.mem_append_left _ (h.requests socket request hrequest),
      fun socket playerId hplayer => (h.players socket playerId hplayer).mono _⟩
  cases hsteps with
  | @gateway event server unanswered ran =>
    obtain ⟨hrequests, hplayers⟩ := h.turn ran (note s (.gateway event)) (by
      rintro socket request rfl
      exact List.mem_singleton_self _)
    exact ⟨hsound, hrequests, hplayers,
      h.heard_append (hsilent (fun _ heq => by cases heq) fun _ heq => by cases heq)⟩
  | @executed now next rest redis head later ran =>
    refine ⟨hsound, hkept.1, hkept.2, h.heard_append ?_⟩
    intro other hmem playerId b hheard
    rw [note, head] at hmem
    cases List.mem_singleton.mp hmem
    refine h.inFlight (List.mem_append_right _ ?_) hheard
    rw [head]
    exact List.mem_cons_self
  | refused | resent =>
    exact ⟨hsound, hkept.1, hkept.2,
      h.heard_append (hsilent (fun _ heq => by cases heq) fun _ heq => by cases heq)⟩
  | @delivered now uuid reply rest event server head answers ran =>
    obtain ⟨hrequests, hplayers⟩ := h.turn ran (note s (.deliver now uuid)) (by
      rintro socket request rfl
      cases answers)
    exact ⟨hsound, hrequests, hplayers,
      h.heard_append (hsilent (fun _ heq => by cases heq) fun _ heq => by cases heq)⟩
  | @foreign event redis other later ran =>
    refine ⟨hsound, hkept.1, hkept.2, h.heard_append ?_⟩
    intro noted hmem playerId b hheard
    cases List.mem_singleton.mp hmem
    cases event with
    | call now call => exact absurd rfl (other now call)
    | _ => cases hheard

omit [Field R] [LinearOrder R] [JsMath R] in
theorem word_of_onlineUntil {playerId : String} {event : RedisEvent} {limit : Int}
    (h : onlineUntil playerId event = some (some limit)) : ∃ now call, event = .call now call ∧
      word playerId call = some true ∧ limit = now + milliseconds presenceSeconds := by
  cases event with
  | call now call =>
    have hheard : word playerId call = some true := by
      have heq := heard_eq playerId (.call now call)
      rw [h] at heq
      exact heq
    refine ⟨now, call, rfl, hheard, ?_⟩
    cases call with
    | setOnline | heartbeat =>
      obtain ⟨-, heq⟩ := Option.ite_none_right_eq_some.mp h
      cases heq
      rfl
    | setOffline =>
      obtain ⟨-, heq⟩ := Option.ite_none_right_eq_some.mp h
      cases heq
    | _ => cases h
  | _ => cases h

/-- In every run of the gateway with its Redis: a player is online only if in the last
minute Redis ran an online command about the player, and a socket has connected with a
valid token of the player. -/
theorem online_authenticated {events : List DeploymentEvent} (haway : KeepsAway events)
    {redis : Database} {clock : Int} {s : Deployment R} {notes : List Note}
    (hexec : (noted env rt).exec (Deployment.start redis clock, []) events = some (s, notes))
    {playerId : String} (habsent : redis.get (presenceKey playerId) = none) {now : Int}
    (hnow : s.clock ≤ now) (honline : isOnline s.redis now playerId = true) :
    (∃ time call, RedisEvent.call time call ∈ ran notes ∧ word playerId call = some true ∧
      now < time + milliseconds presenceSeconds) ∧ Authenticated rt playerId notes := by
  have htraced : Traced redis s notes :=
    noted_invariant (I := Traced redis) (fun _ _ _ _ h hallowed hsteps => h.step hallowed hsteps)
      haway (traced_start redis clock) hexec
  have hvouched : Vouched env rt s notes :=
    noted_invariant (I := Vouched env rt) (fun _ _ _ _ h _ hsteps => h.step hsteps)
      haway (vouched_start env rt redis clock) hexec
  have hregular := regular_of_traced htraced hnow
  cases hlast : ((ran notes).filterMap (onlineUntil playerId)).getLast? with
  | none =>
    rw [hregular.offline htraced.exec habsent hlast] at honline
    cases honline
  | some last =>
    obtain ⟨limit, rfl, hlive⟩ := (hregular.isOnline htraced.exec hlast).mp honline
    obtain ⟨event, hmem, hevent⟩ := List.mem_filterMap.mp (List.mem_of_getLast? hlast)
    obtain ⟨time, call, rfl, hword, rfl⟩ := word_of_onlineUntil hevent
    exact ⟨⟨time, call, hmem, hword, hlive⟩,
      hvouched.heard (.call time call) hmem playerId true hword⟩

theorem reconnected_authenticated : ∃ s notes,
    (noted defaultEnv SessionAccess.runtime).exec (Deployment.start JsMap.empty 0, []) reconnected =
      some (s, notes) ∧ isOnline s.redis 60101 "p1" = true ∧
    (∃ time call, RedisEvent.call time call ∈ ran notes ∧ word "p1" call = some true ∧
      60101 < time + milliseconds presenceSeconds) ∧
    Authenticated SessionAccess.runtime "p1" notes := by
  have hrun : ((noted defaultEnv SessionAccess.runtime).exec (Deployment.start JsMap.empty 0, [])
      reconnected).map (fun c => (isOnline c.1.redis 60101 "p1", c.1.clock)) = some (true, 102) := by
    decide +kernel
  obtain ⟨⟨s, notes⟩, hexec, hparts⟩ := Option.map_eq_some_iff.mp hrun
  obtain ⟨honline, hclock⟩ := Prod.mk.inj hparts
  have hnow : s.clock ≤ 60101 := by
    rw [hclock]
    decide
  exact ⟨s, notes, hexec, honline, online_authenticated reconnected_away hexec rfl hnow honline⟩

end RealtimeGameServer.Guarantees.ConnectedPresence
