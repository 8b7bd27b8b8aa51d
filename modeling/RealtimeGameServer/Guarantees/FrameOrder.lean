import RealtimeGameServer.Guarantees.SessionAccess
import RealtimeGameServer.Source.FrameSequence

/-!
# The order in which the frames of a socket are handled

`handleConnection` awaits `onMessage` for each frame that it has buffered, one after
the other, but its live listener starts a handler for each frame and awaits none of
them. A run of one socket is compared with `handleAll`, which handles the frames in
the order of arrival, each to its end and with the answers it got in the run. The two
agree in every run in which no frame overtakes an earlier one at the rate limiter. A
`request_snapshot` that arrives while a `join_session` waits for its lobby lookup
overtakes it, even when Redis answers in order.
-/
namespace RealtimeGameServer.Guarantees.FrameOrder
open Lib Source
open Gateway (Attached Handling handle handleAll handleAll_concat onMessage_cases resumeFrame_cases)
open Server (InFlight inFlight_nil)
open SessionAccess (arena joinText joinFrame request)

/-- Calls that Redis answers. -/
def isRedis : ExternalCall → Bool
  | .consume _ _ _ | .setOnline _ _ | .heartbeat _ _ | .setOffline _ => true
  | _ => false

/-- The server with the frames of the socket in the order of arrival, the gateway as
it was when the handshake's setup finished, and the handlers that wait for Redis, the
oldest call first. -/
structure Observed (R : Type) where
  server : Server R
  arrived : List Arrival
  setup : Option (Gateway R)
  redis : List Nat

section Definitions
variable {R : Type} [Field R] [LinearOrder R] [JsMath R]

/-- Which frame a handler is about. The buffered frames are the first ones, and every
later frame has started the next handler. -/
def frameIndex (s : Observed R) (number : Nat) : Handler → Option Nat
  | .message _ _ => some (s.arrived.length + number - s.server.started)
  | .connection _ (.early rest _) =>
    some (s.arrived.length + number - s.server.started - rest.length)
  | _ => none

/-- The frames with what an event adds: a new one, or an answer for one. -/
def arrivedAfter (s : Observed R) : ServerEvent → List Arrival
  | .frame _ raw => s.arrived ++ [.fresh raw]
  | .answer number now uuid answer =>
    match (s.server.handlers.get number).bind fun suspended =>
      frameIndex s number suspended.handler with
    | some index => s.arrived.modify index (·.receive ⟨now, uuid, answer⟩)
    | none => s.arrived
  | _ => s.arrived

/-- The setup finishes when `setOnline` has been answered: the live listener is
attached and no frame has been handled. -/
def setupAfter (s : Observed R) : ServerEvent → Option (Gateway R)
  | .answer number _ _ .done =>
    match s.server.handlers.get number with
    | some ⟨.connection socket .online, _⟩ =>
      some (s.server.gateway.modifyWire socket fun wire =>
        { wire with listening := .live, closeListener := true })
    | _ => s.setup
  | _ => s.setup

/-- An event answers a call or starts a handler, which may issue the next call. -/
def redisAfter (s : Observed R) (event : ServerEvent) (t : Server R) : List Nat :=
  let acting := match event with
    | .answer number _ _ _ => number
    | _ => s.server.started
  let others := s.redis.filter (· ≠ acting)
  if (t.handlers.get acting).any (isRedis ·.call) then others ++ [acting] else others

def observed (env : Env R) (rt : Runtime R) : Machine (Observed R) ServerEvent where
  step s event := (s.server.step env rt event).map fun t =>
    { server := t
      arrived := arrivedAfter s event
      setup := setupAfter s event
      redis := redisAfter s event t }

/-- A server that has not seen the socket yet. -/
def start (s : Server R) : Observed R where
  server := s
  arrived := []
  setup := none
  redis := []

/-- The events of one socket that stays open, without a call that rejects and without
a lookup that rejects the handler. -/
def OfSocket (socket : SocketId) : ServerEvent → Prop
  | .connect i _ => i = socket
  | .frame i _ => i = socket
  | .answer _ _ _ answer => answer ≠ .failed ∧ answer ≠ .room none
  | _ => False

/-- Redis answers its calls in the order in which they were made. -/
def redisInOrder (s : Observed R) : ServerEvent → Bool
  | .answer number _ _ _ =>
    !(s.server.handlers.get number).any (isRedis ·.call) || s.redis.head? = some number
  | _ => true

/-- The messages a socket has been sent. -/
def replies (g : Gateway R) (socket : SocketId) : List (ServerMessage R) :=
  (g.sent.filter (·.1 = socket)).map Prod.snd

/-- The gateway context, the sessions and the replies to the socket are the same. -/
structure SameFor (socket : SocketId) (g h : Gateway R) : Prop where
  context : g.contexts.get socket = h.contexts.get socket
  sessions : g.sessions = h.sessions
  replies : replies g socket = replies h socket

/-- When all handlers have settled, the outcome is that of handling the frames in the
order of arrival, starting where the setup finished. -/
def InOrder (env : Env R) (rt : Runtime R) (socket : SocketId) (s : Observed R) : Prop :=
  ∀ base, s.setup = some base → (∀ number, s.server.handlers.get number = none) →
    ∃ g, handleAll env rt socket base s.arrived = some g ∧ SameFor socket s.server.gateway g

/-- The rate limiter answers for a frame of the live listener when no earlier handler
is in flight, and a frame that is refused for its length arrives at such a time. -/
def NotOvertaking (s : Observed R) : ServerEvent → Prop
  | .answer number _ _ _ => ∀ i raw call,
      s.server.handlers.get number = some ⟨.message i (.rateLimited raw), call⟩ →
      ∀ earlier < number, s.server.handlers.get earlier = none
  | .frame i raw => ∀ wire, s.server.gateway.wires.get i = some wire → wire.listening = .live →
      maxMessageLength < Gateway.utf16Length raw →
      ∀ number, s.server.handlers.get number = none
  | _ => True

end Definitions

variable {R : Type} [Field R] [LinearOrder R] [JsMath R] {env : Env R} {rt : Runtime R}
  {socket : SocketId}

/-- The handler of a live frame that waits for the rate limiter. -/
def waits (socket : SocketId) (raw : String) : Handler := .message socket (.rateLimited raw)

/-- How far the frames have got since the setup finished: the first handler in flight
is the connection's or a frame's, and all others wait for the rate limiter. -/
inductive Stage (env : Env R) (rt : Runtime R) (socket : SocketId) (base : Gateway R)
    (s : Server R) : List Arrival → Prop
  | idle {first : Nat} {arrived : List Arrival} (flight : InFlight s first [])
      (handled : handleAll env rt socket base arrived = some s.gateway) :
      Stage env rt socket base s arrived
  | next {first : Nat} {done : List Arrival} {rest waiting : List String}
      (flight : InFlight s first (.connection socket (.next rest) :: waiting.map (waits socket)))
      (fit : ∀ raw ∈ waiting, Gateway.utf16Length raw ≤ maxMessageLength)
      (handled : handleAll env rt socket base done = some s.gateway) :
      Stage env rt socket base s (done ++ (rest ++ waiting).map .fresh)
  | early {first : Nat} {done : List Arrival} {current : Arrival} {rest waiting : List String}
      {pc : FramePc}
      (flight : InFlight s first
        (.connection socket (.early rest pc) :: waiting.map (waits socket)))
      (fit : ∀ raw ∈ waiting, Gateway.utf16Length raw ≤ maxMessageLength)
      (handling : Handling env rt socket base s.gateway done current pc) :
      Stage env rt socket base s (done ++ current :: (rest ++ waiting).map .fresh)
  | live {first : Nat} {done : List Arrival} {current : Arrival} {waiting : List String}
      {pc : FramePc}
      (flight : InFlight s first (.message socket pc :: waiting.map (waits socket)))
      (fit : ∀ raw ∈ waiting, Gateway.utf16Length raw ≤ maxMessageLength)
      (handling : Handling env rt socket base s.gateway done current pc) :
      Stage env rt socket base s (done ++ current :: waiting.map .fresh)

/-- What holds once the setup has finished with the gateway at `base`. -/
structure Serving (env : Env R) (rt : Runtime R) (socket : SocketId) (base : Gateway R)
    (s : Server R) (arrived : List Arrival) : Prop where
  attached : Attached socket s.gateway
  stage : Stage env rt socket base s arrived

section Steps
variable {base g : Gateway R} {s t : Server R} {first : Nat} {done : List Arrival}
  {rest waiting : List String}

omit [Field R] [LinearOrder R] [JsMath R] in
theorem inFlight_frame {handler origin : Handler} {raw : String} {call : ExternalCall}
    (h : InFlight s first (handler :: waiting.map (waits socket))) :
    InFlight (s.launch origin (.message socket) (g, .awaiting (.rateLimited raw) call)) first
      (handler :: (waiting ++ [raw]).map (waits socket)) := by
  rw [List.map_append]
  exact h.launch_awaiting origin

/-- The first frame that waits is the next one. -/
theorem Stage.of_ready (hattached : Attached socket s.gateway)
    (hdone : handleAll env rt socket base done = some s.gateway)
    (hflight : InFlight s first (waiting.map (waits socket)))
    (hfit : ∀ raw ∈ waiting, Gateway.utf16Length raw ≤ maxMessageLength) :
    Stage env rt socket base s (done ++ waiting.map .fresh) := by
  cases waiting with
  | nil =>
    rw [List.map_nil, List.append_nil]
    exact .idle hflight hdone
  | cons raw waiting =>
    rcases onMessage_cases hattached env raw with ⟨g', hlong, -, -⟩ | ⟨call, -, honMessage⟩
    · exact absurd (hfit raw List.mem_cons_self) (not_le.mpr hlong)
    · refine .live hflight (fun other hother => hfit other (List.mem_cons_of_mem raw hother)) ?_
      exact .of_fresh hdone honMessage

/-- The connection goes on with the frames it has buffered. -/
theorem Serving.of_drain {handler : Handler} (hattached : Attached socket g)
    (hdone : handleAll env rt socket base done = some g)
    (hflight : InFlight s first (handler :: waiting.map (waits socket)))
    (hfit : ∀ raw ∈ waiting, Gateway.utf16Length raw ≤ maxMessageLength) :
    Serving env rt socket base
      (s.conclude first handler (.connection socket) (g.drainEarly env socket rest))
      (done ++ (rest ++ waiting).map .fresh) := by
  cases rest with
  | nil => exact ⟨hattached, .of_ready hattached hdone (hflight.conclude_settled _) hfit⟩
  | cons raw rest =>
    simp only [Gateway.drainEarly]
    rcases onMessage_cases hattached env raw with
      ⟨g', -, hafter, honMessage⟩ | ⟨call, -, honMessage⟩
    · rw [honMessage]
      refine ⟨hafter, ?_⟩
      have hhandle : handle env rt socket g (.fresh raw) = some g' := by
        rw [handle, Arrival.fresh, honMessage]
        rfl
      rw [List.cons_append, List.map_cons, List.append_cons]
      exact .next hflight.conclude_awaiting hfit (handleAll_concat hdone hhandle)
    · rw [honMessage]
      exact ⟨hattached, .early hflight.conclude_awaiting hfit (.of_fresh hdone honMessage)⟩

omit [LinearOrder R] [JsMath R] [Field R] in
/-- Only the first handler in flight gets an answer. -/
theorem number_eq_first {s : Observed R} {handler : Handler} {suspended : Suspended}
    {number : Nat} {now : Int} {uuid : String} {answer : Answer}
    (hflight : InFlight s.server first (handler :: waiting.map (waits socket)))
    (hguard : NotOvertaking s (.answer number now uuid answer))
    (hget : s.server.handlers.get number = some suspended) : number = first := by
  have hhandler := hflight.handlers number
  rw [hget, Option.map_some] at hhandler
  split at hhandler
  next => cases hhandler
  next hle =>
    rcases Nat.eq_zero_or_pos (number - first) with hzero | hpos
    · omega
    · -- a frame that waits would be answered before the first handler has settled
      obtain ⟨k, hk⟩ : ∃ k, number - first = k + 1 := ⟨number - first - 1, by omega⟩
      rw [hk, List.getElem?_cons_succ] at hhandler
      obtain ⟨raw, -, hraw⟩ := List.mem_map.mp (List.mem_of_getElem? hhandler.symm)
      obtain ⟨_, call⟩ := suspended
      cases hraw
      obtain ⟨headCall, hhead⟩ := hflight.head
      have hnone := hguard socket raw call hget first (by omega)
      cases hnone.symm.trans hhead

/-- An answer for a socket whose first handler is the connection's. -/
theorem resume_connection {s : Observed R} {pc : ConnectionPc} {number : Nat} {now : Int}
    {uuid : String} {answer : Answer}
    (hflight : InFlight s.server first (.connection socket pc :: waiting.map (waits socket)))
    (hguard : NotOvertaking s (.answer number now uuid answer))
    (hstep : s.server.resume env rt number now uuid answer = some t) :
    number = first ∧ (∃ call, s.server.handlers.get first = some ⟨.connection socket pc, call⟩) ∧
      ∃ wire result, s.server.gateway.wires.get socket = some wire ∧
        s.server.gateway.resumeConnection env rt now uuid socket wire pc answer = some result ∧
        t = s.server.conclude first (.connection socket pc) (.connection socket) result := by
  cases hget : s.server.handlers.get number with
  | none => simp [Server.resume, hget] at hstep
  | some suspended =>
    cases number_eq_first hflight hguard hget
    obtain ⟨call, hhead⟩ := hflight.head
    simp only [Server.resume, hhead] at hstep
    obtain ⟨wire, hwire, hstep⟩ := Option.bind_eq_some_iff.mp hstep
    obtain ⟨result, hresult, rfl⟩ := Option.map_eq_some_iff.mp hstep
    exact ⟨rfl, ⟨call, hhead⟩, wire, result, hwire, hresult, rfl⟩

/-- An answer for a socket whose first handler is a live frame's. -/
theorem resume_message {s : Observed R} {pc : FramePc} {number : Nat} {now : Int}
    {uuid : String} {answer : Answer}
    (hflight : InFlight s.server first (.message socket pc :: waiting.map (waits socket)))
    (hguard : NotOvertaking s (.answer number now uuid answer))
    (hstep : s.server.resume env rt number now uuid answer = some t) :
    number = first ∧ (∃ call, s.server.handlers.get first = some ⟨.message socket pc, call⟩) ∧
      ∃ ctx result, s.server.gateway.contexts.get socket = some ctx ∧
        s.server.gateway.resumeFrame rt now uuid socket ctx pc answer = some result ∧
        t = s.server.conclude first (.message socket pc) (.message socket) result := by
  cases hget : s.server.handlers.get number with
  | none => simp [Server.resume, hget] at hstep
  | some suspended =>
    cases number_eq_first hflight hguard hget
    obtain ⟨call, hhead⟩ := hflight.head
    simp only [Server.resume, hhead] at hstep
    obtain ⟨ctx, hctx, hstep⟩ := Option.bind_eq_some_iff.mp hstep
    obtain ⟨result, hresult, rfl⟩ := Option.map_eq_some_iff.mp hstep
    exact ⟨rfl, ⟨call, hhead⟩, ctx, result, hctx, hresult, rfl⟩

omit [LinearOrder R] [JsMath R] [Field R] in
theorem arrivedAfter_answer {s : Observed R} {current : Arrival} {later : List Arrival}
    {handler : Handler} {call : ExternalCall} {number : Nat} (now : Int) (uuid : String)
    (answer : Answer) (harrived : s.arrived = done ++ current :: later)
    (hget : s.server.handlers.get number = some ⟨handler, call⟩)
    (hindex : frameIndex s number handler = some done.length) :
    arrivedAfter s (.answer number now uuid answer) =
      done ++ current.receive ⟨now, uuid, answer⟩ :: later := by
  simp only [arrivedAfter, hget, Option.bind_some, hindex, harrived]
  exact List.modifyTailIdx_add _ 0 done (current :: later)

/-- The step lemma for an answer. -/
theorem Serving.answer {s : Observed R} {number : Nat} {now : Int} {uuid : String} {answer : Answer}
    (h : Serving env rt socket base s.server s.arrived)
    (hanswer : answer ≠ .failed ∧ answer ≠ .room none)
    (hguard : NotOvertaking s (.answer number now uuid answer))
    (hstep : s.server.resume env rt number now uuid answer = some t) :
    Serving env rt socket base t (arrivedAfter s (.answer number now uuid answer)) := by
  obtain ⟨hattached, hstage⟩ := h
  generalize harrived : s.arrived = arrived at hstage
  cases hstage with
  | idle flight handled =>
    have hnone := (inFlight_nil.mp flight).2 number
    simp [Server.resume, hnone] at hstep
  | @next first done rest waiting flight fit handled =>
    obtain ⟨rfl, ⟨call, hhead⟩, wire, result, -, hresult, rfl⟩ :=
      resume_connection flight hguard hstep
    have hsame : arrivedAfter s (.answer number now uuid answer) = s.arrived := by
      simp only [arrivedAfter, hhead, Option.bind_some, frameIndex]
    rw [hsame, harrived]
    cases answer with
    | done =>
      cases hresult
      exact .of_drain hattached handled flight fit
    | failed => exact absurd rfl hanswer.1
    | _ => cases hresult
  | @early first done current rest waiting pc flight fit handling =>
    obtain ⟨rfl, ⟨call, hhead⟩, wire, result, -, hresult, rfl⟩ :=
      resume_connection flight hguard hstep
    obtain ⟨ctx, hctx, hresult⟩ := Option.bind_eq_some_iff.mp hresult
    obtain ⟨⟨g, outcome⟩, hframe, rfl⟩ := Option.map_eq_some_iff.mp hresult
    have hindex : frameIndex s number (.connection socket (.early rest pc)) = some done.length := by
      have hstarted := flight.started
      have hlength := congrArg List.length harrived
      simp only [List.length_append, List.length_cons, List.length_map] at hstarted hlength
      simp only [frameIndex, Option.some.injEq]
      omega
    rw [arrivedAfter_answer now uuid answer harrived hhead hindex]
    have hafter := hattached.resumeFrame hframe
    rcases resumeFrame_cases hanswer hframe with hout | ⟨next, call, hout⟩
    · cases hout
      refine ⟨hafter, ?_⟩
      rw [List.append_cons]
      exact .next flight.conclude_awaiting fit (handling.settles ⟨now, uuid, answer⟩ hctx hframe)
    · cases hout
      refine ⟨hafter, .early flight.conclude_awaiting fit ?_⟩
      exact handling.awaits ⟨now, uuid, answer⟩ hctx hframe
  | @live first done current waiting pc flight fit handling =>
    obtain ⟨rfl, ⟨call, hhead⟩, ctx, ⟨g, outcome⟩, hctx, hframe, rfl⟩ :=
      resume_message flight hguard hstep
    have hindex : frameIndex s number (.message socket pc) = some done.length := by
      have hstarted := flight.started
      have hlength := congrArg List.length harrived
      simp only [List.length_append, List.length_cons, List.length_map] at hstarted hlength
      simp only [frameIndex, Option.some.injEq]
      omega
    rw [arrivedAfter_answer now uuid answer harrived hhead hindex]
    have hafter := hattached.resumeFrame hframe
    rcases resumeFrame_cases hanswer hframe with hout | ⟨next, call, hout⟩
    · cases hout
      have hdone := handling.settles ⟨now, uuid, answer⟩ hctx hframe
      rw [List.append_cons]
      exact ⟨hafter, .of_ready hafter hdone (flight.conclude_settled _) fit⟩
    · cases hout
      refine ⟨hafter, .live flight.conclude_awaiting fit ?_⟩
      exact handling.awaits ⟨now, uuid, answer⟩ hctx hframe

/-- The step lemma for a frame. -/
theorem Serving.frame {s : Observed R} {raw : String}
    (h : Serving env rt socket base s.server s.arrived)
    (hguard : NotOvertaking s (.frame socket raw))
    (hstep : s.server.frame env socket raw = some t) :
    Serving env rt socket base t (arrivedAfter s (.frame socket raw)) := by
  obtain ⟨hattached, hstage⟩ := h
  obtain ⟨wire, hwire, hlive⟩ := Option.map_eq_some_iff.mp hattached.listening
  simp only [Server.frame, hwire, hlive] at hstep
  split at hstep
  next => cases hstep
  next =>
    cases hstep
    have hlong := hguard wire hwire hlive
    change Serving env rt socket base _ (s.arrived ++ [.fresh raw])
    generalize s.arrived = arrived at hstage
    rcases onMessage_cases hattached env raw with
      ⟨g', htoo, hafter, honMessage⟩ | ⟨call, hfits, honMessage⟩
    · rw [honMessage]
      have hnone := hlong htoo
      have hhandle : handle env rt socket s.server.gateway (.fresh raw) = some g' := by
        rw [handle, Arrival.fresh, honMessage]
        rfl
      cases hstage with
      | idle flight handled =>
        exact ⟨hafter, .idle flight.launch_settled (handleAll_concat handled hhandle)⟩
      | next flight fit handled =>
        obtain ⟨call, hhead⟩ := flight.head
        cases (hnone _).symm.trans hhead
      | early flight fit handling =>
        obtain ⟨call, hhead⟩ := flight.head
        cases (hnone _).symm.trans hhead
      | live flight fit handling =>
        obtain ⟨call, hhead⟩ := flight.head
        cases (hnone _).symm.trans hhead
    · rw [honMessage]
      refine ⟨hattached, ?_⟩
      have hmore : ∀ waiting : List String,
          (∀ raw ∈ waiting, Gateway.utf16Length raw ≤ maxMessageLength) →
          ∀ other ∈ waiting ++ [raw], Gateway.utf16Length other ≤ maxMessageLength := by
        intro waiting hfit other hother
        rcases List.mem_append.mp hother with hold | hnew
        · exact hfit other hold
        · rw [List.mem_singleton.mp hnew]
          exact hfits
      cases hstage with
      | idle flight handled =>
        exact .live (flight.launch_awaiting _) (List.forall_mem_nil _)
          (.of_fresh handled honMessage)
      | next flight fit handled =>
        rw [List.append_assoc, ← List.map_singleton, ← List.map_append, List.append_assoc]
        exact .next (inFlight_frame flight) (hmore _ fit) handled
      | early flight fit handling =>
        rw [List.append_assoc, List.cons_append, ← List.map_singleton, ← List.map_append,
          List.append_assoc]
        exact .early (inFlight_frame flight) (hmore _ fit) handling
      | live flight fit handling =>
        rw [List.append_assoc, List.cons_append, ← List.map_singleton, ← List.map_append]
        exact .live (inFlight_frame flight) (hmore _ fit) handling

end Steps

/-- A handshake and what follows it. -/
inductive Phase (env : Env R) (rt : Runtime R) (socket : SocketId) (s : Observed R) : Prop
  | unseen {first : Nat} (unknown : s.server.gateway.wires.get socket = none)
      (flight : InFlight s.server first []) (arrived : s.arrived = []) (setup : s.setup = none)
  | opening {first : Nat} {pc : ConnectionPc} {buffer : List String}
      (place : pc = .ipLimited ∨ pc = .online ∧ (s.server.gateway.registered socket).isSome)
      (listening : (s.server.gateway.wires.get socket).map Wire.listening = some (.early buffer))
      (flight : InFlight s.server first [.connection socket pc])
      (arrived : s.arrived = buffer.map .fresh) (setup : s.setup = none)
  | refused {first : Nat}
      (listening : (s.server.gateway.wires.get socket).map Wire.listening = some .off)
      (flight : InFlight s.server first []) (setup : s.setup = none)
  | serving {base : Gateway R} (setup : s.setup = some base)
      (serving : Serving env rt socket base s.server s.arrived)

section Runs
variable {s : Observed R} {t : Server R}

theorem Serving.setupAfter_eq {base : Gateway R}
    (h : Serving env rt socket base s.server s.arrived) (event : ServerEvent) :
    setupAfter s event = s.setup := by
  obtain ⟨-, hstage⟩ := h
  generalize s.arrived = arrived at hstage
  unfold setupAfter
  split
  next number now uuid =>
    split
    next i call hget =>
      -- no handler is left that waits for the setup's presence call
      exfalso
      have hmem {first : Nat} {flight : List Handler} (hflight : InFlight s.server first flight) :
          Handler.connection i .online ∈ flight := by
        have hhandler := hflight.handlers number
        rw [hget, Option.map_some] at hhandler
        split at hhandler
        next => cases hhandler
        next => exact List.mem_of_getElem? hhandler.symm
      cases hstage with
      | idle flight handled => simpa using hmem flight
      | next flight fit handled => simpa [waits] using hmem flight
      | early flight fit handling => simpa [waits] using hmem flight
      | live flight fit handling => simpa [waits] using hmem flight
    next => rfl
  next => rfl

section Opening
variable {first number : Nat} {buffer : List String} {now : Int} {uuid : String} {answer : Answer}
  {redis : List Nat}

/-- The handshake goes on or is refused. -/
theorem phase_ipLimited
    (hlistening : (s.server.gateway.wires.get socket).map Wire.listening = some (.early buffer))
    (hflight : InFlight s.server first (.connection socket .ipLimited :: [].map (waits socket)))
    (harrived : s.arrived = buffer.map .fresh) (hsetup : s.setup = none)
    (hanswer : answer ≠ .failed ∧ answer ≠ .room none)
    (hguard : NotOvertaking s (.answer number now uuid answer))
    (hstep : s.server.resume env rt number now uuid answer = some t) :
    Phase env rt socket
      { server := t
        arrived := arrivedAfter s (.answer number now uuid answer)
        setup := setupAfter s (.answer number now uuid answer)
        redis } := by
  obtain ⟨rfl, ⟨call, hhead⟩, wire, result, hwire, hresult, rfl⟩ :=
    resume_connection hflight hguard hstep
  have hsame : arrivedAfter s (.answer number now uuid answer) = buffer.map .fresh := by
    simp only [arrivedAfter, hhead, Option.bind_some, frameIndex, harrived]
  have hnone : setupAfter s (.answer number now uuid answer) = none := by
    cases answer <;> simp only [setupAfter, hhead, hsetup]
  rw [hsame, hnone]
  cases answer with
  | limit allowed =>
    simp only [Gateway.resumeConnection] at hresult
    split at hresult
    next =>
      cases hresult
      refine .refused ?_ (hflight.conclude_settled (.connection socket)) rfl
      have hoff := Gateway.offEarly_listening hlistening
      exact (Gateway.closeSocket_listening _ socket socket).trans hoff
    next =>
      split at hresult
      next =>
        cases hresult
        exact .refused (Gateway.refuseConnection_listening hlistening)
          (hflight.conclude_settled (.connection socket)) rfl
      next payload _ =>
        cases hresult
        refine .opening (Or.inr ⟨rfl, ?_⟩) ?_ hflight.conclude_awaiting rfl rfl
        · exact Gateway.register_registered s.server.gateway socket payload
        · exact (Gateway.register_listening s.server.gateway socket payload).trans hlistening
  | failed => exact absurd rfl hanswer.1
  | _ => cases hresult

/-- The handshake hands the frames it has buffered over. -/
theorem phase_online (hregistered : (s.server.gateway.registered socket).isSome)
    (hlistening : (s.server.gateway.wires.get socket).map Wire.listening = some (.early buffer))
    (hflight : InFlight s.server first (.connection socket .online :: [].map (waits socket)))
    (harrived : s.arrived = buffer.map .fresh) (hanswer : answer ≠ .failed ∧ answer ≠ .room none)
    (hguard : NotOvertaking s (.answer number now uuid answer))
    (hstep : s.server.resume env rt number now uuid answer = some t) :
    Phase env rt socket
      { server := t
        arrived := arrivedAfter s (.answer number now uuid answer)
        setup := setupAfter s (.answer number now uuid answer)
        redis } := by
  obtain ⟨rfl, ⟨call, hhead⟩, wire, result, hwire, hresult, rfl⟩ :=
    resume_connection hflight hguard hstep
  have hsame : arrivedAfter s (.answer number now uuid answer) = buffer.map .fresh := by
    simp only [arrivedAfter, hhead, Option.bind_some, frameIndex, harrived]
  have hearly : wire.listening = .early buffer := by
    rw [hwire] at hlistening
    exact Option.some.inj hlistening
  rw [hsame]
  cases answer with
  | done =>
    cases hresult
    have hbase : setupAfter s (.answer number now uuid .done) =
        some (s.server.gateway.modifyWire socket fun wire =>
          { wire with listening := .live, closeListener := true }) := by
      simp only [setupAfter, hhead]
    rw [hbase]
    refine .serving rfl ?_
    simp only [Gateway.startListening, hearly]
    generalize hg : (s.server.gateway.modifyWire socket fun wire =>
      { wire with listening := .live, closeListener := true }) = g
    have hattached : Attached socket g := by
      rw [← hg]
      constructor
      case registered =>
        rw [Gateway.modifyWire_registered]
        exact hregistered
      case listening =>
        rw [Gateway.get_modifyWire, if_pos rfl, hwire]
        rfl
    have hdone : handleAll env rt socket g [] = some g := rfl
    have hserving : Serving env rt socket g
        (s.server.conclude number (.connection socket .online) (.connection socket)
          (g.drainEarly env socket buffer)) ([] ++ (buffer ++ []).map .fresh) :=
      .of_drain hattached hdone hflight (List.forall_mem_nil _)
    rw [List.append_nil, List.nil_append] at hserving
    exact hserving
  | failed => exact absurd rfl hanswer.1
  | _ => cases hresult

end Opening
theorem Phase.connect {s : Observed R} {request : Request} {redis : List Nat}
    (h : Phase env rt socket s) (hstep : s.server.connect env socket request = some t) :
    Phase env rt socket { server := t, arrived := s.arrived, setup := s.setup, redis } := by
  unfold Server.connect at hstep
  cases hwire : s.server.gateway.wires.get socket with
  | some wire => simp [hwire] at hstep
  | none =>
    rw [hwire] at hstep
    cases hstep
    cases h with
    | unseen unknown flight arrived setup =>
      have hfresh : s.arrived = ([] : List String).map .fresh := arrived
      refine .opening (Or.inl rfl) ?_
        (flight.launch_awaiting (.connection socket .ipLimited)) hfresh setup
      exact congrArg (Option.map Wire.listening) (JsMap.get_set_self _ socket _)
    | opening place listening => simp [hwire] at listening
    | refused listening => simp [hwire] at listening
    | serving setup serving =>
      have hlive := serving.attached.listening
      simp [hwire] at hlive

theorem Phase.frame {s : Observed R} {raw : String} {redis : List Nat}
    (h : Phase env rt socket s) (hguard : NotOvertaking s (.frame socket raw))
    (hstep : s.server.frame env socket raw = some t) :
    Phase env rt socket
      { server := t, arrived := arrivedAfter s (.frame socket raw), setup := s.setup, redis } := by
  cases h with
  | unseen unknown => simp [Server.frame, unknown] at hstep
  | @opening first pc buffer place listening flight arrived setup =>
    obtain ⟨wire, hwire, hearly⟩ := Option.map_eq_some_iff.mp listening
    simp only [Server.frame, hwire, hearly] at hstep
    split at hstep
    next => cases hstep
    next =>
      cases hstep
      have hbuffer : s.arrived ++ [.fresh raw] = (buffer ++ [raw]).map .fresh := by
        rw [arrived, List.map_append, List.map_singleton]
      refine .opening ?_ ?_ ⟨flight.started, flight.handlers⟩ hbuffer setup
      · rw [Gateway.modifyWire_registered]
        exact place
      · rw [Gateway.get_modifyWire, if_pos rfl, hwire]
        rfl
  | refused listening flight setup =>
    obtain ⟨wire, hwire, hoff⟩ := Option.map_eq_some_iff.mp listening
    simp only [Server.frame, hwire, hoff] at hstep
    split at hstep
    next => cases hstep
    next =>
      cases hstep
      exact .refused listening flight setup
  | serving setup serving => exact .serving setup (serving.frame hguard hstep)

theorem Phase.answer {s : Observed R} {number : Nat} {now : Int} {uuid : String} {answer : Answer}
    {redis : List Nat} (h : Phase env rt socket s)
    (hanswer : answer ≠ .failed ∧ answer ≠ .room none)
    (hguard : NotOvertaking s (.answer number now uuid answer))
    (hstep : s.server.resume env rt number now uuid answer = some t) :
    Phase env rt socket
      { server := t
        arrived := arrivedAfter s (.answer number now uuid answer)
        setup := setupAfter s (.answer number now uuid answer)
        redis } := by
  cases h with
  | unseen unknown flight =>
    have hnone := (inFlight_nil.mp flight).2 number
    simp [Server.resume, hnone] at hstep
  | opening place listening flight arrived setup =>
    rcases place with rfl | ⟨rfl, hregistered⟩
    · exact phase_ipLimited listening flight arrived setup hanswer hguard hstep
    · exact phase_online hregistered listening flight arrived hanswer hguard hstep
  | refused listening flight =>
    have hnone := (inFlight_nil.mp flight).2 number
    simp [Server.resume, hnone] at hstep
  | serving setup serving =>
    rw [serving.setupAfter_eq]
    exact .serving setup (serving.answer hanswer hguard hstep)

/-- The step lemma. -/
theorem Phase.step {s u : Observed R} {event : ServerEvent} (h : Phase env rt socket s)
    (hevent : OfSocket socket event) (hstep : (observed env rt).step s event = some u)
    (hguard : NotOvertaking s event) : Phase env rt socket u := by
  obtain ⟨t, hserver, rfl⟩ := Option.map_eq_some_iff.mp hstep
  cases event with
  | connect i request =>
    cases hevent
    exact h.connect hserver
  | frame i raw =>
    cases hevent
    exact h.frame hguard hserver
  | answer number now uuid answer => exact h.answer hevent hguard hserver
  | close => cases hevent
  | tick => cases hevent
  | destroy => cases hevent
  | shutdown => cases hevent

theorem Phase.inOrder {s : Observed R} (h : Phase env rt socket s) : InOrder env rt socket s := by
  intro base hbase hidle
  cases h with
  | unseen unknown flight arrived setup => cases setup.symm.trans hbase
  | opening place listening flight arrived setup => cases setup.symm.trans hbase
  | refused listening flight setup => cases setup.symm.trans hbase
  | serving setup serving =>
    cases setup.symm.trans hbase
    obtain ⟨-, hstage⟩ := serving
    have hbusy {first : Nat} {handler : Handler} {flight : List Handler}
        (hflight : InFlight s.server first (handler :: flight)) : False := by
      obtain ⟨call, hhead⟩ := hflight.head
      cases (hidle first).symm.trans hhead
    generalize s.arrived = arrived at hstage
    cases hstage with
    | idle flight handled => exact ⟨_, handled, rfl, rfl, rfl⟩
    | next flight => exact (hbusy flight).elim
    | early flight => exact (hbusy flight).elim
    | live flight => exact (hbusy flight).elim

/-- In every run of one socket in which no frame overtakes an earlier one, the frames
are handled in order. -/
theorem in_order_of_notOvertaking (env : Env R) (rt : Runtime R) {server : Server R}
    {socket : SocketId} {events : List ServerEvent}
    (hunseen : server.gateway.wires.get socket = none)
    (hidle : ∀ number, server.handlers.get number = none)
    (hevents : ∀ event ∈ events, OfSocket socket event)
    (hmeet : (observed env rt).StepsMeet NotOvertaking (start server) events) :
    (observed env rt).Along (InOrder env rt socket) (start server) events := by
  have hstart : Phase env rt socket (start server) :=
    .unseen hunseen (inFlight_nil.mpr ⟨rfl, hidle⟩) rfl rfl
  have hphase := Machine.along_of_guarded
    (fun s event u hphase hevent hstep hguard => Phase.step hphase hevent hstep hguard)
    hevents hstart hmeet
  exact hphase.mono fun _ h => h.inOrder

end Runs

/-- The text of a `request_snapshot` frame. -/
def snapshotText : String := "\x7b\"type\":\"request_snapshot\"\x7d"

/-- A platform on which the texts of the two frames are JSON. -/
def runtime : Runtime ℝ :=
  { SessionAccess.runtime with
    jsonParse := fun raw =>
      if raw = joinText then some joinFrame
      else if raw = snapshotText then
        some (.obj fun key => if key = "type" then some (.str "request_snapshot") else none)
      else none }

/-- The rate limiter lets the frame of a handler pass. -/
def allowed (number : Nat) : ServerEvent := .answer number 0 "" (.limit true)

/-- The lobby finds the room, with the player among its members. -/
def found (number : Nat) : ServerEvent :=
  .answer number 0 "reconnect-1" (.room (some ⟨arena, "ABC123", "Arena", "p1", 4, .waiting,
    [⟨"m1", arena, "p1", "nova", false, 0⟩]⟩))

def online (number : Nat) : ServerEvent := .answer number 0 "" .done

/-- Both frames arrive after the setup, and both limiter answers before the lobby's. -/
def overtaken : List ServerEvent :=
  [.connect 0 request, allowed 0, online 0, .frame 0 joinText, .frame 0 snapshotText, allowed 1,
    allowed 2, found 1, online 1]

noncomputable def oneSocket : Machine (Observed ℝ) ServerEvent := observed defaultEnv runtime

/-- The player gets one snapshot where frames that are handled in order get two. -/
theorem snapshot_overtakes_join :
    (∀ event ∈ overtaken, OfSocket 0 event) ∧
    oneSocket.StepsMeet (fun s event => redisInOrder s event) (start Server.empty) overtaken ∧
    ¬oneSocket.Along (InOrder defaultEnv runtime 0) (start Server.empty) overtaken := by
  refine ⟨?_, Machine.stepsMeet_iff_checks.mpr rfl, fun halong => ?_⟩
  · simp [overtaken, allowed, online, found, OfSocket]
  · have hrun : (oneSocket.exec (start Server.empty) overtaken).map (fun s =>
        (s.setup.isSome, s.server.handlers.size, (replies s.server.gateway 0).length,
          (s.setup.bind fun base => handleAll defaultEnv runtime 0 base s.arrived).map fun g =>
            (replies g 0).length)) = some (true, 0, 2, some 3) := rfl
    obtain ⟨s, hs, hfacts⟩ := Option.map_eq_some_iff.mp hrun
    simp only [Prod.mk.injEq] at hfacts
    obtain ⟨hsetup, hhandlers, htwo, hthree⟩ := hfacts
    obtain ⟨base, hbase⟩ := Option.isSome_iff_exists.mp hsetup
    rw [hbase, Option.bind_some] at hthree
    obtain ⟨g, hg, hsame⟩ := halong.last hs base hbase
      ((JsMap.size_eq_zero s.server.handlers).mp hhandlers)
    rw [hg, Option.map_some, Option.some.injEq, ← hsame.replies, htwo] at hthree
    exact absurd hthree (by decide)

/-- The join arrives before the setup, and the snapshot while it waits for Redis. -/
def inTurn : List ServerEvent :=
  [.connect 0 request, .frame 0 joinText, allowed 0, online 0, allowed 0, found 0,
    .frame 0 snapshotText, online 0, online 0]

/-- The buffered join settles first. -/
theorem early_join_in_order :
    oneSocket.Along (InOrder defaultEnv runtime 0) (start Server.empty)
      (inTurn ++ [allowed 1]) := by
  refine in_order_of_notOvertaking defaultEnv runtime rfl (fun _ => rfl) ?_ ?_
  · simp [inTurn, allowed, online, found, OfSocket]
  · rw [Machine.stepsMeet_append]
    constructor
    · have hfirst : ∀ now uuid answer, ∀ s : Observed ℝ,
          NotOvertaking s (.answer 0 now uuid answer) := by
        intro now uuid answer s i raw call hget earlier hearlier
        exact absurd hearlier (Nat.not_lt_zero earlier)
      have hshort : ∀ raw ∈ [joinText, snapshotText], ∀ s : Observed ℝ,
          NotOvertaking s (.frame 0 raw) := by
        have hlengths : ∀ raw ∈ [joinText, snapshotText],
            ¬maxMessageLength < Gateway.utf16Length raw := by decide
        intro raw hraw s wire hwire hlive hlong
        exact absurd hlong (hlengths raw hraw)
      refine Machine.StepsMeet.of_labels ?_ _
      simp only [inTurn, List.forall_mem_cons]
      exact ⟨fun _ => trivial, hshort joinText (by simp), hfirst _ _ _, hfirst _ _ _,
        hfirst _ _ _, hfirst _ _ _, hshort snapshotText (by simp), hfirst _ _ _, hfirst _ _ _,
        List.forall_mem_nil _⟩
    · intro s hs t _
      have hrun : (oneSocket.exec (start Server.empty) inTurn).map (fun s =>
          s.server.handlers.get 0) = some none := rfl
      obtain ⟨s', hs', hnone⟩ := Option.map_eq_some_iff.mp hrun
      cases hs.symm.trans hs'
      refine ⟨fun _ _ _ _ earlier hearlier => ?_, trivial⟩
      rw [Nat.lt_one_iff.mp hearlier]
      exact hnone

end RealtimeGameServer.Guarantees.FrameOrder
