import RealtimeGameServer.Guarantees.RoomFanout
import RealtimeGameServer.Source.OpenSockets
import RealtimeGameServer.Source.SessionLifecycle

/-!
# Timers and shutdown

A session ticks through the timer its constructor's caller starts. The manager, the
gateway and the start route reach the same objects, some of them across awaits, so that
no timer leaks is a statement about every run: each room has the timer of the session in
the map and no other, and a session that was stopped stays as it was. `shutdown` stops
all of them and closes the registered sockets; what runs afterwards is new.
-/
namespace RealtimeGameServer.Guarantees.SessionTimers
open Lib Source
open GameSessionManager (Timed)
open RoomFanout (startedThenJoined)
open SessionAccess (arena runtime)

/-- The invariant of the runs. -/
structure Tracked {R : Type} (s : Server R) : Prop where
  timed : Timed s.gateway.sessions
  connecting : s.Connecting

/-- From `s` on the sessions that were there at the shutdown stand still and the sockets
that were registered hear nothing. -/
structure ShutDown {R : Type} (s u : Server R) : Prop where
  sessions : ∀ id o, s.gateway.sessions.object id = some o →
    ∃ o', u.gateway.sessions.object id = some o' ∧ o'.session = o.session ∧ o'.running = false
  sockets : ∀ socket ∈ s.gateway.sockets, u.gateway.readyState socket ≠ .opened ∧
    sentTo u.gateway.sent socket = sentTo s.gateway.sent socket
  timers : ∀ roomId, ∀ id ∈ u.gateway.sessions.runningFor roomId,
    s.gateway.sessions.objects.length ≤ id

variable {R : Type}

theorem object_destroyAll (m : GameSessionManager R) (id : SessionId) :
    (m.destroyAll.object id).map SessionObject.session = (m.object id).map SessionObject.session := by
  refine List.foldlRecOn (motive := fun after : GameSessionManager R =>
    (after.object id).map SessionObject.session = (m.object id).map SessionObject.session)
    m.sessions.keys _ rfl fun after hafter roomId _ => ?_
  rw [GameSessionManager.object_destroy, ← hafter]
  split
  next =>
    rw [Option.map_map]
    rfl
  next => rfl

theorem tracked_empty : Tracked (Server.empty : Server R) where
  timed := GameSessionManager.timed_empty
  connecting := Server.connecting_empty

variable [Field R] [LinearOrder R] [JsMath R]

theorem Tracked.step {env : Env R} {rt : Runtime R} {s t : Server R} {event : SharedEvent}
    (h : Tracked s) (hstep : (Server.shared env rt).step s event = some t) : Tracked t where
  timed := (h.timed.managesAll (Server.shared_manages hstep)).1
  connecting := by
    cases event with
    | server event => exact h.connecting.step (Server.moves hstep).connects
    | getOrCreate roomId =>
      cases hstep
      exact h.connecting.withSessions _
    | startRoute now room =>
      cases hstep
      exact h.connecting.withSessions _

theorem Tracked.exec {env : Env R} {rt : Runtime R} {events : List SharedEvent} {s t : Server R}
    (h : Tracked s) (hrun : (Server.shared env rt).exec s events = some t) : Tracked t :=
  Machine.exec_invariant (fun _ _ _ h hstep => h.step hstep) h hrun

/-- Each room has the timer of its session and no other, in every run. -/
theorem timers_tracked (env : Env R) (rt : Runtime R) (events : List SharedEvent) :
    (Server.shared env rt).Along (fun s => ∀ roomId,
        s.gateway.sessions.runningFor roomId = (s.gateway.sessions.get roomId).toList)
      Server.empty events :=
  (Machine.along_of_invariant (fun _ _ _ h hstep => Tracked.step h hstep) events tracked_empty).mono
    fun _ h => h.timed.runningFor

theorem Tracked.frozen {env : Env R} {rt : Runtime R} {events : List SharedEvent}
    {s t : Server R} (h : Tracked s) (hrun : (Server.shared env rt).exec s events = some t)
    {id : SessionId} {o : SessionObject R} (ho : s.gateway.sessions.object id = some o)
    (hstopped : o.running = false) : t.gateway.sessions.object id = some o := by
  have hinvariant : ∀ u a v, (Tracked u ∧ u.gateway.sessions.object id = some o) →
      (Server.shared env rt).step u a = some v →
      Tracked v ∧ v.gateway.sessions.object id = some o := by
    rintro u a v ⟨hu, huo⟩ hstep
    refine ⟨hu.step hstep, ?_⟩
    exact (hu.timed.managesAll (Server.shared_manages hstep)).2 id o huo hstopped
  exact (Machine.exec_invariant hinvariant ⟨h, ho⟩ hrun).2

/-- The other callers of the manager send nothing. -/
theorem stays_shut {env : Env R} {rt : Runtime R} {events : List SharedEvent} {s t : Server R}
    (hrun : (Server.shared env rt).exec s events = some t) {socket : SocketId}
    (hknown : (s.gateway.shut socket).isSome) (hshut : s.gateway.readyState socket ≠ .opened) :
    t.gateway.readyState socket ≠ .opened ∧
      sentTo t.gateway.sent socket = sentTo s.gateway.sent socket := by
  have hinvariant : ∀ u a v, ((u.gateway.shut socket).isSome ∧
      u.gateway.readyState socket ≠ .opened ∧
      sentTo u.gateway.sent socket = sentTo s.gateway.sent socket) →
      (Server.shared env rt).step u a = some v → (v.gateway.shut socket).isSome ∧
      v.gateway.readyState socket ≠ .opened ∧
      sentTo v.gateway.sent socket = sentTo s.gateway.sent socket := by
    rintro u a v ⟨huknown, hushut, husent⟩ hstep
    cases a with
    | server event =>
      obtain ⟨hvknown, hvshut, hvsent⟩ := (Server.moves hstep).stays_shut huknown hushut
      exact ⟨hvknown, hvshut, hvsent.trans husent⟩
    | getOrCreate roomId =>
      cases hstep
      exact ⟨huknown, hushut, husent⟩
    | startRoute now room =>
      cases hstep
      exact ⟨huknown, hushut, husent⟩
  exact (Machine.exec_invariant hinvariant ⟨hknown, hshut, rfl⟩ hrun).2

/-- After a shutdown, whatever happens: the sessions that were there stand still, the
sockets that were registered hear nothing, and a timer that runs is of a newer session. -/
theorem shutdown_final {env : Env R} {rt : Runtime R} {before after : List SharedEvent}
    {s t u : Server R} (hs : (Server.shared env rt).exec Server.empty before = some s)
    (ht : (Server.shared env rt).step s (.server .shutdown) = some t)
    (hu : (Server.shared env rt).exec t after = some u) : ShutDown s u := by
  have htracked : Tracked s := tracked_empty.exec hs
  have hstopped := htracked.step ht
  have hgateway : t.gateway = { s.gateway.sockets.foldl Gateway.closeSocket s.gateway with
      sessions := s.gateway.sessions.destroyAll } := by
    cases ht
    rfl
  have hsessions : t.gateway.sessions = s.gateway.sessions.destroyAll := by rw [hgateway]
  have hold : ∀ id o, s.gateway.sessions.object id = some o →
      ∃ o', u.gateway.sessions.object id = some o' ∧ o'.session = o.session ∧ o'.running = false := by
    intro id o ho
    have hmap := object_destroyAll s.gateway.sessions id
    rw [ho, ← hsessions] at hmap
    obtain ⟨o', ho', hsame⟩ := Option.map_eq_some_iff.mp hmap
    have hidle : o'.running = false := by
      by_contra hrunning
      have hget := hstopped.timed.running id o' ho' (Bool.eq_true_of_not_eq_false hrunning)
      rw [hsessions, GameSessionManager.get_destroyAll] at hget
      cases hget
    exact ⟨o', hstopped.frozen hu ho' hidle, hsame, hidle⟩
  constructor
  case sessions => exact hold
  case sockets =>
    intro socket hmem
    have hcontext := htracked.connecting.registry.contexts socket hmem
    have hknown := htracked.connecting.registry.known socket hcontext
    have hclosed : t.gateway.readyState socket ≠ .opened := by
      rw [hgateway]
      exact Gateway.readyState_foldl_close hmem s.gateway
    have hunsent : sentTo t.gateway.sent socket = sentTo s.gateway.sent socket := by
      have hfold : ∀ (sockets : List SocketId) (g : Gateway R),
          (sockets.foldl Gateway.closeSocket g).sent = g.sent := by
        intro sockets g
        refine List.foldlRecOn (motive := fun after : Gateway R => after.sent = g.sent) _ _ rfl
          fun after hafter i _ => ?_
        rw [← hafter, Gateway.closeSocket, Gateway.modifyWire]
        split <;> rfl
      rw [hgateway]
      exact congrArg (sentTo · socket) (hfold _ _)
    have hmoves : Server.Moves env rt s t .shutdown := Server.moves ht
    have hkept : (t.gateway.shut socket).isSome := hmoves.connects.known hknown
    obtain ⟨hopen, hsent⟩ := stays_shut hu hkept hclosed
    exact ⟨hopen, hsent.trans hunsent⟩
  case timers =>
    intro roomId id hid
    obtain ⟨o, ho, hrunning, -⟩ := GameSessionManager.mem_runningFor.mp hid
    by_contra hlt
    obtain ⟨old, hobject⟩ := GameSessionManager.isSome_object (Nat.lt_of_not_le hlt)
    obtain ⟨o', ho', -, hidle⟩ := hold id old hobject
    cases ho.symm.trans ho'
    cases hrunning.symm.trans hidle

/-- A player joins the session of a room, the server shuts down, and a start request that
comes late creates the session again. -/
theorem shutdown_joined : ∃ s t u,
    (Server.shared defaultEnv runtime).exec Server.empty startedThenJoined = some s ∧
    (Server.shared defaultEnv runtime).step s (.server .shutdown) = some t ∧
    (Server.shared defaultEnv runtime).exec t [.getOrCreate arena] = some u ∧
    s.gateway.sockets = [0] ∧ u.gateway.sessions.runningFor arena = [1] ∧ ShutDown s u := by
  have hrun : ((Server.shared defaultEnv runtime).exec Server.empty
      (startedThenJoined ++ [.server .shutdown, .getOrCreate arena])).map (fun u =>
        u.gateway.sessions.runningFor arena) = some [1] := rfl
  have hjoined : ((Server.shared defaultEnv runtime).exec Server.empty startedThenJoined).map
      (fun s => s.gateway.sockets) = some [0] := rfl
  obtain ⟨u, hu, hrunning⟩ := Option.map_eq_some_iff.mp hrun
  obtain ⟨s, hs, hu⟩ := Machine.exec_append.mp hu
  obtain ⟨t, ht, hu⟩ := Machine.exec_cons.mp hu
  rw [hs, Option.map_some, Option.some.injEq] at hjoined
  exact ⟨s, t, u, hs, ht, hu, hjoined, hrunning, shutdown_final hs ht hu⟩

end RealtimeGameServer.Guarantees.SessionTimers
