import RealtimeGameServer.Guarantees.SessionAccess
import RealtimeGameServer.Source.Registry

/-!
# Sockets that are registered although they have closed

`handleConnection` registers the socket, awaits the presence call and attaches the
close listener only then; before it, it awaits the rate limiter. The close event
fires once. Where it falls before the listener is attached nobody unregisters the
socket, and the failure branch does not either. In runs in which every registered
socket that closes has its listener, and none is registered that has closed before,
no dead socket stays registered.
-/
namespace RealtimeGameServer.Guarantees.DeadSockets
open Lib Source
open SessionAccess (request runtime)

/-- The socket a handler is about. -/
def Handler.socket : Handler → SocketId
  | .message socket _ => socket
  | .connection socket _ => socket
  | .close socket => socket

variable {R : Type}

/-- The close event of the socket has fired and no handler of it is in progress. -/
structure Dead (s : Server R) (socket : SocketId) : Prop where
  closed : ∃ wire, s.gateway.wires.get socket = some wire ∧ wire.readyState = .closed
  idle : ∀ number suspended, s.handlers.get number = some suspended →
    Handler.socket suspended.handler ≠ socket

/-- Dead sockets are in neither map. -/
def NoDeadSocket (s : Server R) : Prop :=
  ∀ socket, Dead s socket → s.gateway.registered socket = none ∧ socket ∉ s.gateway.sockets ∧
    ∀ playerId, s.gateway.socketsByPlayer.get playerId ≠ some socket

/-- A close event without a listener finds the socket unregistered, and a socket that
is being registered has not closed. -/
def closesHeard (rt : Runtime R) (s : Server R) : ServerEvent → Bool
  | .close socket =>
    match s.gateway.wires.get socket with
    | none => true
    | some wire => wire.closeListener || decide (socket ∉ s.gateway.sockets)
  | .answer number _ _ (.limit true) =>
    match s.handlers.get number with
    | some ⟨.connection socket .ipLimited, _⟩ =>
      match s.gateway.wires.get socket with
      | none => true
      | some wire => decide (wire.readyState ≠ .closed) || (authenticate rt wire.request).isNone
    | _ => true
  | _ => true

/-- The invariant: no socket that has closed is registered. -/
structure Unregistered (s : Server R) : Prop where
  connecting : s.Connecting
  closed : ∀ socket, s.gateway.shut socket = some true → socket ∉ s.gateway.sockets

theorem unregistered_empty : Unregistered (Server.empty : Server R) where
  connecting := Server.connecting_empty
  closed socket _ hmem := by cases hmem

theorem Unregistered.noDeadSocket {s : Server R} (h : Unregistered s) : NoDeadSocket s := by
  intro socket hdead
  obtain ⟨wire, hwire, hclosed⟩ := hdead.closed
  have habsent : socket ∉ s.gateway.sockets := by
    refine h.closed socket ?_
    rw [Gateway.shut, hwire, Option.map_some, decide_eq_true hclosed]
  refine ⟨if_neg habsent, habsent, fun playerId hget => habsent ?_⟩
  have howner := (h.connecting.registry.byPlayer playerId socket).mp hget
  exact (Gateway.owner_eq_some.mp howner).1

theorem Unregistered.step {rt : Runtime R} {s t : Server R} {event : ServerEvent}
    (h : Unregistered s) (hstep : Server.Connects rt s t event)
    (hguard : closesHeard rt s event) : Unregistered t := by
  refine ⟨h.connecting.step hstep, ?_⟩
  cases hstep with
  | kept same limited =>
    intro i hclosed
    rw [same.shut] at hclosed
    rw [same.sockets]
    exact h.closed i hclosed
  | @connected socket request unknown gateway limited =>
    intro i hclosed
    rw [gateway] at hclosed ⊢
    unfold Gateway.shut at hclosed
    rw [JsMap.get_set] at hclosed
    split at hclosed
    next => cases hclosed
    next => exact h.closed i hclosed
  | @registered number now uuid socket wire payload pending known authenticated gateway limited =>
    obtain ⟨call, hget⟩ := pending
    have hopen : wire.readyState ≠ .closed := by
      simpa [closesHeard, hget, known, authenticated] using hguard
    intro i hclosed
    rw [gateway, Gateway.shut_register] at hclosed
    rw [gateway, Gateway.sockets_register, List.mem_append, List.mem_singleton]
    rintro (hold | rfl)
    · exact h.closed i hclosed (List.mem_filter.mp hold).1
    · rw [Gateway.shut, known, Option.map_some, decide_eq_false hopen] at hclosed
      cases hclosed
  | @closed socket wire g known listens wired gateway limited =>
    obtain ⟨byPlayer, sessions, hcore, -⟩ := Gateway.onClose_core g socket
    have hsockets : t.gateway.sockets = g.sockets.filter (· ≠ socket) := by
      rw [gateway]
      have heq := congrArg Gateway.sockets hcore
      exact heq
    have hold : g.sockets = s.gateway.sockets := by
      rw [wired]
      exact Gateway.sockets_of_core (Gateway.core_modifyWire _ _ _)
    intro i hclosed hmem
    rw [gateway, Gateway.shut_onClose, wired, Server.shut_closed] at hclosed
    rw [hsockets, hold] at hmem
    obtain ⟨hmem, hne⟩ := List.mem_filter.mp hmem
    rw [if_neg (of_decide_eq_true hne)] at hclosed
    exact h.closed i hclosed hmem
  | @unheard socket wire known deaf gateway limited =>
    have habsent : socket ∉ s.gateway.sockets := by
      simpa [closesHeard, known, deaf] using hguard
    intro i hclosed
    rw [gateway, Server.shut_closed] at hclosed
    rw [gateway, Gateway.sockets_of_core (Gateway.core_modifyWire _ _ _)]
    split at hclosed
    next heq => rwa [heq]
    next => exact h.closed i hclosed

variable [Field R] [LinearOrder R] [JsMath R]

/-- In runs in which every close of a registered socket is heard, no dead socket stays
registered. -/
theorem no_dead_socket (env : Env R) (rt : Runtime R) (events : List ServerEvent)
    (hheard : (Server.machine env rt).StepsMeet (fun s event => closesHeard rt s event)
      Server.empty events) :
    (Server.machine env rt).Along NoDeadSocket Server.empty events := by
  have hkeep : ∀ s event t, Unregistered s → True → (Server.machine env rt).step s event = some t →
      closesHeard rt s event → Unregistered t :=
    fun s event t h _ hstep hguard => h.step (Server.moves hstep).connects hguard
  exact (Machine.along_of_guarded hkeep (fun _ _ => trivial) unregistered_empty hheard).mono
    fun _ h => h.noDeadSocket

/-- A client connects and is gone while the presence call is awaited. -/
def goneInHandshake : List ServerEvent :=
  [.connect 0 request, .answer 0 0 "" (.limit true), .close 0, .answer 0 0 "" .done]

/-- Its socket stays registered when everything has settled. -/
theorem dead_socket_stays :
    ¬(Server.machine defaultEnv runtime).Along NoDeadSocket Server.empty goneInHandshake := by
  intro halong
  have hrun : ((Server.machine defaultEnv runtime).exec Server.empty goneInHandshake).map
      (fun s => (s.handlers.entries.length, s.gateway.sockets,
        (s.gateway.wires.get 0).map Wire.readyState)) = some (0, [0], some .closed) := rfl
  obtain ⟨s, hs, hfacts⟩ := Option.map_eq_some_iff.mp hrun
  simp only [Prod.mk.injEq] at hfacts
  obtain ⟨hhandlers, hsockets, hwire⟩ := hfacts
  have hdead : Dead s 0 := by
    constructor
    case closed => exact Option.map_eq_some_iff.mp hwire
    case idle =>
      intro number suspended hget
      rw [JsMap.get_eq_some, List.length_eq_zero_iff.mp hhandlers] at hget
      cases hget
  have habsent := (halong.last hs 0 hdead).2.1
  rw [hsockets] at habsent
  exact habsent (List.mem_singleton_self 0)

/-- A client that stays until its listener is attached. -/
theorem closed_after_handshake :
    (Server.machine defaultEnv runtime).StepsMeet (fun s event => closesHeard runtime s event)
        Server.empty [.connect 0 request, .answer 0 0 "" (.limit true), .answer 0 0 "" .done, .close 0] ∧
      (Server.machine defaultEnv runtime).Along NoDeadSocket Server.empty
        [.connect 0 request, .answer 0 0 "" (.limit true), .answer 0 0 "" .done, .close 0] := by
  have hheard : (Server.machine defaultEnv runtime).StepsMeet
      (fun s event => closesHeard runtime s event) Server.empty
      [.connect 0 request, .answer 0 0 "" (.limit true), .answer 0 0 "" .done, .close 0] :=
    Machine.stepsMeet_iff_checks.mpr rfl
  exact ⟨hheard, no_dead_socket defaultEnv runtime _ hheard⟩

end RealtimeGameServer.Guarantees.DeadSockets
