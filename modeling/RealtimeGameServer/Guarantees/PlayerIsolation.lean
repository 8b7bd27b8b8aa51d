import RealtimeGameServer.Source.Baseline
import RealtimeGameServer.Source.RealMotion
import RealtimeGameServer.Source.SessionStep

/-!
# Players do not influence each other

The tick goes over one map of all players and writes it while it goes. Of one player the
session keeps a runtime state and a queue, and as long as the player is not removed these
two develop as they would for the player alone: `alone` reads nothing else, and every
operation of a session either concerns the player and does what `alone` does, or leaves
both as they are. So two runs that differ in what other players do show the same player.
-/
namespace RealtimeGameServer.Guarantees.PlayerIsolation
open Lib Source Source.GameSession

variable {R : Type*} [Field R] [LinearOrder R] [JsMath R]

/-- What a session keeps of a player. -/
structure Slot (R : Type*) where
  player : RuntimePlayerState R
  queue : Option (List (MovementInput R))

def slot (playerId : String) (s : GameSession R) : Option (Slot R) :=
  (s.players.get playerId).map fun player => ⟨player, s.pendingInputs.get playerId⟩

/-- Ticks, and the operations of the player. -/
def concerns (playerId : String) : Op R → Bool
  | .addPlayer _ id _ | .removePlayer id | .markDisconnected id | .heartbeat _ id
  | .updatePing id _ | .enqueueInput id _ => id = playerId
  | .step _ => true

/-- A player on its own: what an operation that concerns a player of the session makes of
it. -/
def alone (env : Env R) (x : Slot R) : Op R → Slot R
  | .addPlayer now _ _ =>
    { x with player := { x.player with connected := true, lastHeartbeatAt := now } }
  | .removePlayer _ => x
  | .markDisconnected _ => { x with player := { x.player with connected := false } }
  | .heartbeat now _ =>
    { x with player := { x.player with lastHeartbeatAt := now, connected := true } }
  | .updatePing _ ping => { x with player := { x.player with ping := max 0 (JsMath.round ping) } }
  | .enqueueInput _ input => { x with queue := x.queue.map (pushInput · input) }
  | .step now => ⟨tickPlayer env now x.player (x.queue.getD []), x.queue.map fun _ => []⟩

/-- The entry of a player in a full snapshot. -/
def entry (playerId : String) (message : FullSnapshotMessage R) : Option (PlayerSnapshot R) :=
  message.players.find? fun snapshot => snapshot.id = playerId

section Slots
omit [Field R] [LinearOrder R] [JsMath R]

theorem slot_eq_some {playerId : String} {s : GameSession R} {x : Slot R} :
    slot playerId s = some x ↔
      s.players.get playerId = some x.player ∧ s.pendingInputs.get playerId = x.queue := by
  unfold slot
  rw [Option.map_eq_some_iff]
  constructor
  · rintro ⟨player, hplayer, rfl⟩
    exact ⟨hplayer, rfl⟩
  · rintro ⟨hplayer, hqueue⟩
    exact ⟨x.player, hplayer, by rw [hqueue]⟩

/-- The assignments of an operation to the player, and to another. -/
theorem slot_withPlayer {playerId : String} {s : GameSession R} {x : Slot R}
    (h : slot playerId s = some x) (id : String)
    (assign : RuntimePlayerState R → RuntimePlayerState R) :
    slot playerId (s.withPlayer id assign) =
      some (if id = playerId then { x with player := assign x.player } else x) := by
  obtain ⟨hplayer, hqueue⟩ := slot_eq_some.mp h
  rw [slot_eq_some, withPlayer_get, withPlayer_pendingInputs, hplayer]
  by_cases heq : id = playerId
  · rw [if_pos heq, if_pos heq.symm]
    exact ⟨rfl, hqueue⟩
  · rw [if_neg heq, if_neg (Ne.symm heq)]
    exact ⟨rfl, hqueue⟩

end Slots

/-- One operation on a session does to a player what it does to the player alone, if it
concerns the player, and otherwise nothing. -/
theorem slot_apply {env : Env R} {playerId : String} {s : GameSession R} {op : Op R} {x : Slot R}
    (hkept : op ≠ .removePlayer playerId) (h : slot playerId s = some x) :
    slot playerId (s.apply env op).session =
      some (if concerns playerId op then alone env x op else x) := by
  obtain ⟨hplayer, hqueue⟩ := slot_eq_some.mp h
  cases op with
  | addPlayer now id username =>
    simp only [apply, concerns, alone, decide_eq_true_eq]
    rw [slot_eq_some, addPlayer_get, addPlayer_pending_get]
    by_cases heq : id = playerId
    · subst heq
      rw [if_pos rfl, if_pos rfl, hplayer, if_neg fun hand => by cases hand.2]
      exact ⟨rfl, hqueue⟩
    · rw [if_neg heq, if_neg (Ne.symm heq), if_neg fun hand => heq hand.1.symm]
      exact ⟨hplayer, hqueue⟩
  | removePlayer id =>
    have hne : playerId ≠ id := fun heq => hkept (heq ▸ rfl)
    simp only [apply, concerns, alone, decide_eq_true_eq, ite_self]
    rw [slot_eq_some, removePlayer_get, removePlayer_pending_get, if_neg hne, if_neg hne]
    exact ⟨hplayer, hqueue⟩
  | markDisconnected id =>
    simp only [apply, concerns, alone, decide_eq_true_eq, markDisconnected]
    exact slot_withPlayer h id _
  | heartbeat now id =>
    simp only [apply, concerns, alone, decide_eq_true_eq, heartbeat]
    exact slot_withPlayer h id _
  | updatePing id ping =>
    simp only [apply, concerns, alone, decide_eq_true_eq, updatePing]
    exact slot_withPlayer h id _
  | enqueueInput id input =>
    simp only [apply, concerns, alone, decide_eq_true_eq]
    rw [slot_eq_some, enqueueInput_players, enqueueInput_pending_get]
    by_cases heq : id = playerId
    · rw [if_pos heq, if_pos heq.symm, hqueue]
      exact ⟨hplayer, rfl⟩
    · rw [if_neg heq, if_neg (Ne.symm heq)]
      exact ⟨hplayer, hqueue⟩
  | step now =>
    simp only [apply, concerns, alone, if_true]
    have hmem : playerId ∈ s.players.keys := (JsMap.mem_keys _ _).mpr ⟨_, hplayer⟩
    rw [slot_eq_some, step_players_get, step_pending_get, if_pos hmem, hplayer, hqueue, queueOf,
      hqueue]
    exact ⟨rfl, rfl⟩

/-- A run does to a player what the operations that concern it do to the player alone. -/
theorem slot_exec {env : Env R} {playerId : String} {ops : List (Op R)}
    (hkept : .removePlayer playerId ∉ ops) {s s' : GameSession R} {x : Slot R}
    (h : slot playerId s = some x) (hexec : (machine env).exec s ops = some s') :
    slot playerId s' = some ((ops.filter (concerns playerId)).foldl (alone env) x) := by
  refine Machine.exec_projection (L := fun op => op ≠ .removePlayer playerId) ?_ ?_ h hexec
  · intro s op t x hop hstep hslot
    cases hstep
    exact slot_apply hop hslot
  · rintro op hmem rfl
    exact hkept hmem

theorem grounded_of_reachable {env : Env R} {roomId : String} {s : GameSession R}
    (h : (machine env).Reachable (GameSession.create roomId) s) : Grounded s :=
  Machine.Reachable.invariant (fun _ op _ hs hstep => by cases hstep; exact hs.apply env op)
    (Grounded.create roomId) h

omit [Field R] [JsMath R] [LinearOrder R] in
theorem entry_snapshots {s : GameSession R} (h : Grounded s) (playerId : String) (tick : Nat)
    (serverTime : Int) :
    entry playerId ⟨tick, serverTime, s.players.values.map toPlayerSnapshot⟩ =
      (s.players.get playerId).map toPlayerSnapshot := snapshots_find h.ids playerId

omit [Field R] [JsMath R] in
theorem publish_full {now : Int} {s : GameSession R} {full : FullSnapshotMessage R}
    (h : (publish now s).2 = some (.full full)) :
    full.players = s.players.values.map toPlayerSnapshot := by
  unfold publish at h
  dsimp only at h
  split at h
  next =>
    cases h
    rfl
  next => split at h <;> cases h

/-- The entry of a player in a full snapshot that a step emits. -/
theorem entry_emitted {env : Env R} {now : Int} {s : GameSession R} (h : Grounded s)
    {full : FullSnapshotMessage R}
    (hfull : .snapshot (.full full) ∈ (s.step env now).events) (playerId : String) :
    entry playerId full =
      ((s.step env now).session.players.get playerId).map toPlayerSnapshot := by
  have hstepped : Grounded (s.step env now).session := h.apply env (.step now)
  have hpublished : (publish now (swept env now s)).2 = some (.full full) := by
    rw [step_events] at hfull
    rcases List.mem_append.mp hfull with hswept | hmessage
    · obtain ⟨id, hid⟩ := sweep_events env now _ _ hswept
      cases hid
    · obtain ⟨message, hmessage, heq⟩ := Option.map_eq_some_iff.mp (Option.mem_toList.mp hmessage)
      cases heq
      exact hmessage
  have hplayers := publish_full hpublished
  rw [entry, hplayers, ← publish_players now (swept env now s), ← step_session]
  exact snapshots_find hstepped.ids playerId

/-- Two runs from states with the same state and queue of a player, in which the ticks
and the operations that concern the player are the same and the player is not removed,
show the same player: in its runtime state, in the full snapshots that are built, and in
those that the next tick emits. -/
theorem player_isolated (env : Env R) {roomId roomId' : String} {s t s' t' : GameSession R}
    (hs : (machine env).Reachable (GameSession.create roomId) s)
    (ht : (machine env).Reachable (GameSession.create roomId') t)
    {playerId : String} {player : RuntimePlayerState R}
    (hplayer : s.players.get playerId = some player)
    (hplayer' : t.players.get playerId = some player)
    (hqueue : s.pendingInputs.get playerId = t.pendingInputs.get playerId)
    {ops ops' : List (Op R)}
    (hops : ops.filter (concerns playerId) = ops'.filter (concerns playerId))
    (hkept : .removePlayer playerId ∉ ops)
    (hexec : (machine env).exec s ops = some s') (hexec' : (machine env).exec t ops' = some t') :
    s'.players.get playerId = t'.players.get playerId ∧
      (∀ now now', entry playerId (s'.buildFullSnapshot now) =
        entry playerId (t'.buildFullSnapshot now')) ∧
      ∀ now full full', .snapshot (.full full) ∈ (s'.step env now).events →
        .snapshot (.full full') ∈ (t'.step env now).events →
        entry playerId full = entry playerId full' := by
  have hkept' : .removePlayer playerId ∉ ops' := by
    intro hmem
    have hfiltered : .removePlayer playerId ∈ ops'.filter (concerns playerId) :=
      List.mem_filter.mpr ⟨hmem, decide_eq_true rfl⟩
    rw [← hops] at hfiltered
    exact hkept (List.mem_filter.mp hfiltered).1
  have hslot : slot playerId s = some ⟨player, t.pendingInputs.get playerId⟩ :=
    slot_eq_some.mpr ⟨hplayer, hqueue⟩
  have hslot' : slot playerId t = some ⟨player, t.pendingInputs.get playerId⟩ :=
    slot_eq_some.mpr ⟨hplayer', rfl⟩
  have hafter := slot_exec hkept hslot hexec
  have hafter' := slot_exec hkept' hslot' hexec'
  rw [hops] at hafter
  obtain ⟨hstate, hrest⟩ := slot_eq_some.mp hafter
  obtain ⟨hstate', hrest'⟩ := slot_eq_some.mp hafter'
  have hsame := hstate.trans hstate'.symm
  obtain ⟨front, hfront⟩ := hs
  obtain ⟨front', hfront'⟩ := ht
  have hgrounded := grounded_of_reachable ⟨_, Machine.exec_append.mpr ⟨s, hfront, hexec⟩⟩
  have hgrounded' := grounded_of_reachable ⟨_, Machine.exec_append.mpr ⟨t, hfront', hexec'⟩⟩
  refine ⟨hsame, fun now now' => ?_, fun now full full' hfull hfull' => ?_⟩
  · have hentry := entry_snapshots hgrounded playerId s'.tick now
    have hentry' := entry_snapshots hgrounded' playerId t'.tick now'
    exact hentry.trans ((congrArg _ hsame).trans hentry'.symm)
  · have hqueues : s'.queueOf playerId = t'.queueOf playerId := by
      rw [queueOf, queueOf, hrest, hrest']
    rw [entry_emitted hgrounded hfull, entry_emitted hgrounded' hfull', step_players_get,
      step_players_get, hsame, hqueues]

noncomputable def nova : GameSession ℝ := (GameSession.create "room-1").addPlayer 0 "p1" "nova"

noncomputable def novaAndRex : GameSession ℝ := nova.addPlayer 0 "p2" "rex"

/-- One moves, and the other one moves and leaves in between. -/
theorem nova_isolated :
    ((machine defaultEnv).exec nova [.enqueueInput "p1" (runInput 1), .step 50]).bind
        (·.players.get "p1") =
      ((machine defaultEnv).exec novaAndRex [.enqueueInput "p2" (runInput 1),
        .enqueueInput "p1" (runInput 1), .removePlayer "p2", .step 50]).bind
        (·.players.get "p1") := by
  have hs : (machine defaultEnv).Reachable (GameSession.create "room-1") nova :=
    ⟨[.addPlayer 0 "p1" "nova"], rfl⟩
  have ht : (machine defaultEnv).Reachable (GameSession.create "room-1") novaAndRex :=
    ⟨[.addPlayer 0 "p1" "nova", .addPlayer 0 "p2" "rex"], rfl⟩
  have hkept : Op.removePlayer "p1" ∉ [Op.enqueueInput "p1" (runInput 1), .step 50] := by simp
  have hops : [Op.enqueueInput "p1" (runInput 1), .step 50].filter (concerns "p1") =
      [Op.enqueueInput "p2" (runInput 1), .enqueueInput "p1" (runInput 1), .removePlayer "p2",
        .step 50].filter (concerns "p1") := rfl
  exact (player_isolated defaultEnv hs ht rfl rfl rfl hops hkept rfl rfl).1

end RealtimeGameServer.Guarantees.PlayerIsolation
