import RealtimeGameServer.Source.AppSteps

/-!
# The frames of a socket, one after the other

`handleAll` is what an `await this.onMessage(socket, raw)` for each frame would do:
every frame is handled to its end before the next one. Two notions compare a run of
the server with it. `Handling` says how far the frames have got when one of them
waits for a call, and `InFlight` which handlers are left, in the order in which they
were started.
-/
namespace RealtimeGameServer.Source
open Lib

/-- What a call of a frame's handler resolved to, with the clock and the
`randomUUID()` of the stretch that follows. -/
structure Answered where
  now : Int
  uuid : String
  answer : Answer

/-- A frame that has arrived and the answers its handler has had. -/
structure Arrival where
  raw : String
  answers : List Answered

def Arrival.fresh (raw : String) : Arrival := ⟨raw, []⟩

def Arrival.receive (arrival : Arrival) (answered : Answered) : Arrival :=
  { arrival with answers := arrival.answers ++ [answered] }

namespace Gateway
variable {R : Type} {socket : SocketId}

/-- The socket is registered and its live listener attached. -/
structure Attached (socket : SocketId) (g : Gateway R) : Prop where
  registered : (g.registered socket).isSome
  listening : (g.wires.get socket).map Wire.listening = some .live

theorem Attached.of_frame {socket : SocketId} {g g' : Gateway R}
    (h : Attached socket g) (hsockets : g'.sockets = g.sockets)
    (hcontexts : KeepsContexts g g') (hwires : g'.wires = g.wires) :
    Attached socket g' := by
  obtain ⟨ctx, hctx⟩ := Option.isSome_iff_exists.mp h.registered
  obtain ⟨hmem, hget⟩ := mem_sockets_of_registered hctx
  constructor
  · rw [Gateway.registered, hsockets, if_pos hmem]
    exact hcontexts socket (Option.isSome_of_eq_some hget)
  · rw [hwires]
    exact h.listening

variable [Field R] [LinearOrder R] [JsMath R] {env : Env R} {rt : Runtime R}

/-- A handler goes on with the answers it gets while nothing else happens. -/
def follow (rt : Runtime R) (socket : SocketId) :
    Gateway R × Outcome FramePc → List Answered → Option (Gateway R × Outcome FramePc)
  | result, [] => some result
  | (g, .awaiting pc _), answered :: rest =>
    (g.contexts.get socket).bind fun ctx =>
      (g.resumeFrame rt answered.now answered.uuid socket ctx pc answered.answer).bind
        fun result => follow rt socket result rest
  | _, _ :: _ => none

/-- `await this.onMessage(socket, raw)`. -/
def handle (env : Env R) (rt : Runtime R) (socket : SocketId) (g : Gateway R)
    (arrival : Arrival) : Option (Gateway R) :=
  match follow rt socket (g.onMessage env socket arrival.raw) arrival.answers with
  | some (g, .settled) => some g
  | _ => none

def handleAll (env : Env R) (rt : Runtime R) (socket : SocketId) :
    Gateway R → List Arrival → Option (Gateway R)
  | g, [] => some g
  | g, arrival :: rest =>
    (handle env rt socket g arrival).bind fun g => handleAll env rt socket g rest

variable {base before g g' : Gateway R} {done : List Arrival} {current : Arrival} {raw : String}
  {pc : FramePc} {call : ExternalCall}

omit [JsMath R] in
/-- A frame of a registered socket is refused for its length or waits for the rate limiter. -/
theorem onMessage_cases (h : Attached socket g) (env : Env R) (raw : String) :
    (∃ g', maxMessageLength < utf16Length raw ∧ Attached socket g' ∧
      g.onMessage env socket raw = (g', .settled)) ∨
    ∃ call, utf16Length raw ≤ maxMessageLength ∧
      g.onMessage env socket raw = (g, .awaiting (.rateLimited raw) call) := by
  have hkeep := keepsSockets_onMessage env g socket raw
  have hafter : Attached socket (g.onMessage env socket raw).1 :=
    h.of_frame hkeep.sockets (.of_eq hkeep.contexts) hkeep.wires
  obtain ⟨ctx, hctx⟩ := Option.isSome_iff_exists.mp h.registered
  unfold onMessage at hafter ⊢
  rw [hctx] at hafter ⊢
  dsimp only at hafter ⊢
  split at hafter
  next hlong =>
    rw [if_pos hlong]
    exact Or.inl ⟨_, hlong, hafter, rfl⟩
  next hfits =>
    rw [if_neg hfits]
    exact Or.inr ⟨_, not_lt.mp hfits, rfl⟩

theorem Attached.resumeFrame {now : Int} {uuid : String} {ctx : SocketContext} {answer : Answer}
    {outcome : Outcome FramePc} (h : Attached socket g)
    (hframe : g.resumeFrame rt now uuid socket ctx pc answer = some (g', outcome)) :
    Attached socket g' := by
  have hsockets := (resumeFrame_changes hframe).sockets
  exact h.of_frame hsockets (resumeFrame_ends hframe).1 (resumeFrame_wires hframe)

theorem follow_append (result : Gateway R × Outcome FramePc) (answers more : List Answered) :
    follow rt socket result (answers ++ more) =
      (follow rt socket result answers).bind fun result => follow rt socket result more := by
  induction answers generalizing result with
  | nil => rfl
  | cons answered rest ih =>
    obtain ⟨g, outcome⟩ := result
    cases outcome with
    | settled => rfl
    | rejected reason => rfl
    | awaiting pc call =>
      simp only [List.cons_append, follow, Option.bind_assoc, ih]

theorem handleAll_append (g : Gateway R) (arrivals more : List Arrival) :
    handleAll env rt socket g (arrivals ++ more) =
      (handleAll env rt socket g arrivals).bind fun g => handleAll env rt socket g more := by
  induction arrivals generalizing g with
  | nil => rfl
  | cons arrival rest ih => simp only [List.cons_append, handleAll, Option.bind_assoc, ih]

/-- The frames `done` have been handled in order, and the handler of the next one
waits at `pc`. -/
def Handling (env : Env R) (rt : Runtime R) (socket : SocketId) (base g : Gateway R)
    (done : List Arrival) (current : Arrival) (pc : FramePc) : Prop :=
  ∃ before call, handleAll env rt socket base done = some before ∧
    follow rt socket (before.onMessage env socket current.raw) current.answers =
      some (g, .awaiting pc call)

theorem handleAll_concat (hdone : handleAll env rt socket base done = some before)
    (hhandle : handle env rt socket before current = some g) :
    handleAll env rt socket base (done ++ [current]) = some g := by
  rw [handleAll_append, hdone, Option.bind_some, handleAll, hhandle]
  rfl

/-- A frame that has arrived at a registered socket and is not too long is next. -/
theorem Handling.of_fresh (hdone : handleAll env rt socket base done = some g)
    (honMessage : g.onMessage env socket raw = (g', .awaiting pc call)) :
    Handling env rt socket base g' done (.fresh raw) pc := by
  refine ⟨g, call, hdone, ?_⟩
  rw [Arrival.fresh, honMessage]
  rfl

theorem Handling.follow_receive (h : Handling env rt socket base g done current pc)
    (answered : Answered)
    {ctx : SocketContext} {outcome : Outcome FramePc} (hctx : g.contexts.get socket = some ctx)
    (hframe : g.resumeFrame rt answered.now answered.uuid socket ctx pc answered.answer =
      some (g', outcome)) :
    ∃ before, handleAll env rt socket base done = some before ∧
      follow rt socket (before.onMessage env socket current.raw)
        (current.receive answered).answers = some (g', outcome) := by
  obtain ⟨before, call, hdone, hfollow⟩ := h
  refine ⟨before, hdone, ?_⟩
  rw [Arrival.receive, follow_append, hfollow, Option.bind_some, follow, hctx, Option.bind_some,
    hframe]
  rfl

theorem Handling.awaits (h : Handling env rt socket base g done current pc)
    (answered : Answered)
    {ctx : SocketContext} {next : FramePc} (hctx : g.contexts.get socket = some ctx)
    (hframe : g.resumeFrame rt answered.now answered.uuid socket ctx pc answered.answer =
      some (g', .awaiting next call)) :
    Handling env rt socket base g' done (current.receive answered) next := by
  obtain ⟨before, hdone, hfollow⟩ := h.follow_receive answered hctx hframe
  exact ⟨before, call, hdone, hfollow⟩

theorem Handling.settles (h : Handling env rt socket base g done current pc)
    (answered : Answered)
    {ctx : SocketContext} (hctx : g.contexts.get socket = some ctx)
    (hframe : g.resumeFrame rt answered.now answered.uuid socket ctx pc answered.answer =
      some (g', .settled)) :
    handleAll env rt socket base (done ++ [current.receive answered]) = some g' := by
  obtain ⟨before, hdone, hfollow⟩ := h.follow_receive answered hctx hframe
  refine handleAll_concat hdone ?_
  have hraw : (current.receive answered).raw = current.raw := rfl
  rw [handle, hraw, hfollow]

/-- A frame's handler neither rejects nor loses its context. -/
theorem resumeFrame_cases {g : Gateway R} {now : Int} {uuid : String} {ctx : SocketContext}
    {pc : FramePc} {answer : Answer} {result : Gateway R × Outcome FramePc}
    (hanswer : answer ≠ .failed ∧ answer ≠ .room none)
    (h : g.resumeFrame rt now uuid socket ctx pc answer = some result) :
    result.2 = .settled ∨ ∃ next call, result.2 = .awaiting next call := by
  have hends := (resumeFrame_ends h).2
  generalize result.2 = outcome at hends
  cases hends with
  | callFailed hfailed => exact absurd hfailed hanswer.1
  | roomAbsent place habsent => exact absurd habsent hanswer.2
  | settled => exact Or.inl rfl
  | awaits => exact Or.inr ⟨_, _, rfl⟩

end Gateway

namespace Server

/-- The handlers of a socket in the order in which they were started: `first` of them
have settled, and `flight` are in flight. -/
structure InFlight {R : Type} (s : Server R) (first : Nat) (flight : List Handler) : Prop where
  started : s.started = first + flight.length
  handlers : ∀ number, (s.handlers.get number).map Suspended.handler =
    if number < first then none else flight[number - first]?

section Flight
variable {R : Type} {s : Server R} {first : Nat} {origin handler : Handler} {flight : List Handler}
  {Pc : Type} {resume : Pc → Handler} {g : Gateway R} {pc : Pc} {call : ExternalCall}

theorem inFlight_nil : InFlight s first [] ↔
    s.started = first ∧ ∀ number, s.handlers.get number = none := by
  constructor
  · intro h
    refine ⟨h.started, fun number => ?_⟩
    have hhandler := h.handlers number
    rw [List.getElem?_nil, ite_self] at hhandler
    exact Option.map_eq_none_iff.mp hhandler
  · rintro ⟨hstarted, hnone⟩
    refine ⟨hstarted, fun number => ?_⟩
    rw [hnone, List.getElem?_nil, ite_self, Option.map_none]

theorem InFlight.head (h : InFlight s first (handler :: flight)) :
    ∃ call, s.handlers.get first = some ⟨handler, call⟩ := by
  have hhandler := h.handlers first
  rw [if_neg (lt_irrefl first), Nat.sub_self, List.getElem?_cons_zero] at hhandler
  obtain ⟨⟨_, call⟩, hget, rfl⟩ := Option.map_eq_some_iff.mp hhandler
  exact ⟨call, hget⟩

/-- The handler of the next frame is the last in flight. -/
theorem InFlight.launch_awaiting (h : InFlight s first flight) (origin : Handler) :
    InFlight (s.launch origin resume (g, .awaiting pc call)) first (flight ++ [resume pc]) := by
  constructor
  case started =>
    have hstarted : s.started + 1 = first + (flight.length + 1) := by
      rw [h.started, Nat.add_assoc]
    rwa [List.length_append]
  case handlers =>
    intro number
    have hbefore := h.handlers number
    change ((s.handlers.set s.started ⟨resume pc, call⟩).get number).map Suspended.handler = _
    rw [JsMap.get_set]
    have hstarted := h.started
    split
    next heq =>
      have hindex : number - first = flight.length := by omega
      rw [if_neg (by omega), hindex, List.getElem?_concat_length, Option.map_some]
    next hne =>
      rw [hbefore]
      split
      next => rfl
      next hle =>
        rcases lt_or_ge (number - first) flight.length with hlt | hge
        · rw [List.getElem?_append_left hlt]
        · -- the number belongs to no handler yet
          rw [List.getElem?_eq_none hge, List.getElem?_eq_none]
          rw [List.length_append, List.length_singleton]
          omega

theorem InFlight.launch_settled (h : InFlight s first []) :
    InFlight (s.launch origin resume (g, .settled)) (first + 1) [] := by
  obtain ⟨hstarted, hnone⟩ := inFlight_nil.mp h
  refine inFlight_nil.mpr ⟨congrArg (· + 1) hstarted, fun number => ?_⟩
  change (s.handlers.delete s.started).get number = none
  rw [JsMap.get_delete, hnone, ite_self]

theorem InFlight.conclude_awaiting (h : InFlight s first (handler :: flight)) :
    InFlight (s.conclude first handler resume (g, .awaiting pc call)) first
      (resume pc :: flight) := by
  refine ⟨h.started, fun number => ?_⟩
  have hbefore := h.handlers number
  change ((s.handlers.set first ⟨resume pc, call⟩).get number).map Suspended.handler = _
  rw [JsMap.get_set]
  split
  next heq =>
    subst heq
    rw [if_neg (lt_irrefl number), Nat.sub_self, List.getElem?_cons_zero, Option.map_some]
  next hne =>
    rw [hbefore]
    split
    next => rfl
    next hle =>
      obtain ⟨k, hk⟩ : ∃ k, number - first = k + 1 := ⟨number - first - 1, by omega⟩
      rw [hk, List.getElem?_cons_succ, List.getElem?_cons_succ]

theorem InFlight.conclude_settled (h : InFlight s first (handler :: flight))
    (resume : Pc → Handler) :
    InFlight (s.conclude first handler resume (g, .settled)) (first + 1) flight := by
  constructor
  case started =>
    have hstarted := h.started
    rw [List.length_cons] at hstarted
    change s.started = _
    omega
  case handlers =>
    intro number
    have hbefore := h.handlers number
    change ((s.handlers.delete first).get number).map Suspended.handler = _
    rw [JsMap.get_delete]
    split
    next heq => rw [if_pos (by omega), Option.map_none]
    next hne =>
      rw [hbefore]
      split
      next hlt => rw [if_pos (by omega)]
      next hle =>
        rw [if_neg (by omega)]
        obtain ⟨k, hk⟩ : ∃ k, number - first = k + 1 := ⟨number - first - 1, by omega⟩
        rw [hk, List.getElem?_cons_succ]
        congr 1
        omega

end Flight

end Server
end RealtimeGameServer.Source
