import RealtimeGameServer.Source.Fanout

/-!
# One connection per player

`sockets` and `socketsByPlayer` are written by four paths that interleave at every
await: the registration, the replacement of an older socket, `onClose` and the
failure branch, which writes neither. After any events the two maps say the same,
so a player has one registered socket at most and hears a broadcast at most once.
-/
namespace RealtimeGameServer.Guarantees.OneConnection
open Lib Source

variable {R : Type}

/-- What the gateway's maps say of its players. -/
structure OnePerPlayer (g : Gateway R) : Prop where
  agree : ∀ playerId socket, g.socketsByPlayer.get playerId = some socket ↔
    ∃ ctx, g.registered socket = some ctx ∧ ctx.playerId = playerId
  single : ∀ i j ctx ctx', g.registered i = some ctx → g.registered j = some ctx' →
    ctx.playerId = ctx'.playerId → i = j
  heardOnce : ∀ roomId message playerId,
    ((g.broadcast roomId message).sent.drop g.sent.length).countP (fun e =>
      (g.contexts.get e.1).map SocketContext.playerId = some playerId) ≤ 1

theorem owner_of_registered {g : Gateway R} {socket : SocketId} {ctx : SocketContext}
    (h : g.registered socket = some ctx) : g.owner socket = some ctx.playerId := by
  rw [Gateway.owner, h]
  rfl

/-- Among the sockets a broadcast reaches each player has one at most. -/
theorem countP_audience {g : Gateway R} (h : g.Registry) (roomId playerId : String) :
    (g.audience roomId).countP (fun socket =>
      (g.contexts.get socket).map SocketContext.playerId = some playerId) ≤ 1 := by
  rw [List.countP_eq_length_filter]
  generalize hreached : (g.audience roomId).filter (fun socket =>
      (g.contexts.get socket).map SocketContext.playerId = some playerId) = reached
  have hnodup : reached.Nodup := by
    rw [← hreached]
    exact (h.nodup.filter _).filter _
  have howner : ∀ socket ∈ reached, g.owner socket = some playerId := by
    intro socket hsocket
    rw [← hreached] at hsocket
    obtain ⟨haudience, hplayer⟩ := List.mem_filter.mp hsocket
    exact Gateway.owner_eq_some.mpr ⟨(List.mem_filter.mp haudience).1, of_decide_eq_true hplayer⟩
  rcases reached with _ | ⟨i, _ | ⟨j, rest⟩⟩
  · exact Nat.zero_le 1
  · exact Nat.le_refl 1
  · have hsame := h.single (howner i (by simp)) (howner j (by simp))
    exact absurd (by simp [hsame]) (List.nodup_cons.mp hnodup).1

theorem onePerPlayer_of_registry {g : Gateway R} (h : g.Registry) : OnePerPlayer g where
  agree playerId socket := by
    rw [h.byPlayer, Gateway.owner, Option.map_eq_some_iff]
  single i j ctx ctx' hi hj hplayer := by
    refine h.single (owner_of_registered hi) ?_
    rw [hplayer]
    exact owner_of_registered hj
  heardOnce roomId message playerId := by
    rw [Gateway.broadcast_eq, Gateway.sending, List.drop_left, List.countP_map]
    exact countP_audience h roomId playerId

/-- The maps agree in every state of every run. -/
theorem one_connection_per_player [Field R] [LinearOrder R] [JsMath R] (env : Env R)
    (rt : Runtime R) (events : List ServerEvent) :
    (Server.machine env rt).Along (fun s => OnePerPlayer s.gateway) Server.empty events :=
  (Server.connecting_along env rt events).mono fun _ h => onePerPlayer_of_registry h.registry

end RealtimeGameServer.Guarantees.OneConnection
