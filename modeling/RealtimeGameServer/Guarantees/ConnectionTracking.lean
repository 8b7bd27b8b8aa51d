import RealtimeGameServer.Source.Baseline
import RealtimeGameServer.Source.RealMotion

/-!
# Lost connections and their events

Two paths set `connected` to false. The heartbeat check of a tick does so, and announces
it, only for a player that is connected; `markDisconnected` announces whatever it finds, so
a socket that closes after its player has timed out announces a second time. After every
tick a player whose heartbeat is overdue is disconnected, in every run; events and changes
correspond exactly as long as `markDisconnected` finds its player connected.
-/
namespace RealtimeGameServer.Guarantees.ConnectionTracking
open Lib Source Source.GameSession

variable {R : Type*}

def disconnects (playerId : String) : SessionEvent R → Bool
  | .playerDisconnected id => id = playerId
  | .snapshot _ => false

/-- How many of the events announce that a player has disconnected. -/
def announcements (playerId : String) (events : List (SessionEvent R)) : Nat :=
  events.countP (disconnects playerId)

/-- Between two states `connected` of a player has changed from true to false. -/
def drops (playerId : String) (before after : GameSession R) : Bool :=
  match before.players.get playerId, after.players.get playerId with
  | some old, some new => old.connected && !new.connected
  | _, _ => false

/-- A session, with the clock reading of its last operation if that was a tick, and for each
player the numbers of the operations that announced it disconnected, one entry for each
event, and of those that changed `connected` from true to false. -/
structure Tracked (R : Type*) where
  session : GameSession R
  tickedAt : Option Int
  operations : Nat
  announced : String → List Nat
  changed : String → List Nat

def startTracked (roomId : String) : Tracked R :=
  ⟨GameSession.create roomId, none, 0, fun _ => [], fun _ => []⟩

def tickTime : Op R → Option Int
  | .step now => some now
  | _ => none

/-- `markDisconnected` finds the player connected, if it finds it. -/
def MarksConnected (session : GameSession R) (op : Op R) : Prop :=
  ∀ id, op = .markDisconnected id → ∀ player, session.players.get id = some player →
    player.connected = true

variable [Field R] [LinearOrder R]

/-- A player whose heartbeat is overdue right after a tick is
disconnected, and the events of each player match its changes one by one. -/
structure Tracks (env : Env R) (t : Tracked R) : Prop where
  overdue : ∀ now, t.tickedAt = some now → ∀ id player, t.session.players.get id = some player →
    env.heartbeatTimeoutMs < now - player.lastHeartbeatAt → player.connected = false
  matched : ∀ id, t.announced id = t.changed id

variable [JsMath R]

def tracking (env : Env R) : Machine (Tracked R) (Op R) where
  step t op :=
    let result := t.session.apply env op
    some
      { session := result.session
        tickedAt := tickTime op
        operations := t.operations + 1
        announced := fun id =>
          t.announced id ++ List.replicate (announcements id result.events) t.operations
        changed := fun id =>
          t.changed id ++ if drops id t.session result.session then [t.operations] else [] }

/-- Whether the heartbeat check of the tick disconnects the player. -/
def expires (env : Env R) (now : Int) (player : RuntimePlayerState R) : Bool :=
  timedOut env now player && player.connected

theorem visit_announcements (env : Env R) (now : Int) {acc : Sweep R} {id : String}
    {player : RuntimePlayerState R} (present : acc.players.get id = some player) (j : String) :
    announcements j (visit env now acc id).events =
      announcements j acc.events + if j = id ∧ expires env now player then 1 else 0 := by
  simp only [visit, present, announcements, List.countP_append]
  congr 1
  by_cases hexpires : expires env now player = true
  · rw [expires] at hexpires
    rw [if_pos hexpires, List.countP_singleton, disconnects]
    simp [expires, hexpires, eq_comm]
  · rw [expires] at hexpires
    rw [if_neg hexpires, List.countP_nil, if_neg fun h => hexpires h.2]

/-- The loop over distinct present keys announces each of them that expires once. -/
theorem visits_announcements (env : Env R) (now : Int) (j : String) (ids : List String)
    (acc : Sweep R) (distinct : ids.Nodup) (present : ∀ id ∈ ids, id ∈ acc.players.keys) :
    announcements j (ids.foldl (visit env now) acc).events = announcements j acc.events +
      if j ∈ ids ∧ ((acc.players.get j).any fun player => expires env now player)
      then 1 else 0 := by
  induction ids generalizing acc with
  | nil => simp
  | cons id rest ih =>
    obtain ⟨habsent, hrest⟩ := List.nodup_cons.mp distinct
    obtain ⟨player, hplayer⟩ := (JsMap.mem_keys _ _).mp (present id List.mem_cons_self)
    have hkeys := visit_keys env now hplayer
    have hget := visit_get env now hplayer j
    rw [List.foldl_cons, ih (visit env now acc id) hrest fun i hi => by
        rw [hkeys]
        exact present i (List.mem_cons_of_mem _ hi),
      visit_announcements env now hplayer, add_assoc]
    congr 1
    by_cases hj : j = id
    · subst hj
      simp [habsent, hplayer]
    · rw [if_neg hj] at hget
      simp [hj, hget]

theorem announcements_step (env : Env R) (now : Int) (s : GameSession R) (j : String) :
    announcements j (s.step env now).events =
      if (s.players.get j).any fun player => expires env now player then 1 else 0 := by
  have hpublished : announcements j
      ((publish now (swept env now s)).2.map SessionEvent.snapshot).toList = 0 := by
    cases (publish now (swept env now s)).2 <;> rfl
  have hswept := visits_announcements env now j s.players.keys
    ⟨s.players, s.pendingInputs, [], []⟩ s.players.unique fun _ h => h
  have hnothing : announcements j ([] : List (SessionEvent R)) = 0 := rfl
  rw [hnothing, Nat.zero_add] at hswept
  rw [step_events, announcements, List.countP_append, ← announcements, ← announcements,
    hpublished, Nat.add_zero, sweep]
  refine hswept.trans (if_congr ?_ rfl rfl)
  constructor
  · exact fun h => h.2
  · intro h
    refine ⟨?_, h⟩
    cases hplayer : s.players.get j with
    | none =>
      rw [hplayer] at h
      cases h
    | some player => exact (JsMap.mem_keys _ _).mpr ⟨player, hplayer⟩

omit [JsMath R] in
theorem connected_expireHeartbeat (env : Env R) (now : Int) (player : RuntimePlayerState R) :
    (expireHeartbeat env now player).connected = (player.connected && !timedOut env now player) := by
  unfold expireHeartbeat
  cases htimedOut : timedOut env now player <;> cases hconnected : player.connected <;>
    simp [hconnected]

theorem lastHeartbeatAt_tickPlayer (env : Env R) (now : Int) (player : RuntimePlayerState R)
    (queue : List (MovementInput R)) :
    (tickPlayer env now player queue).lastHeartbeatAt = player.lastHeartbeatAt := by
  have hkept : (expireHeartbeat env now player).lastHeartbeatAt = player.lastHeartbeatAt := by
    unfold expireHeartbeat
    split <;> rfl
  rw [tickPlayer, Sequenced.stale_eq]
  cases ((movement env).applied (expireHeartbeat env now player) queue).getLast? with
  | none => exact hkept
  | some input => exact hkept

/-- After a tick, a player whose heartbeat is overdue is disconnected. -/
theorem overdue_step {env : Env R} {now : Int} {s : GameSession R} {id : String}
    {player : RuntimePlayerState R} (h : (s.step env now).session.players.get id = some player)
    (hoverdue : env.heartbeatTimeoutMs < now - player.lastHeartbeatAt) :
    player.connected = false := by
  rw [step_players_get] at h
  obtain ⟨old, -, rfl⟩ := Option.map_eq_some_iff.mp h
  rw [lastHeartbeatAt_tickPlayer] at hoverdue
  have htimedOut : timedOut env now old = true := decide_eq_true hoverdue
  rw [(tickPlayer_frame env now old _).2.2.1, connected_expireHeartbeat, htimedOut]
  exact Bool.and_false _

theorem drops_step (env : Env R) (now : Int) (s : GameSession R) (j : String) :
    drops j s (s.step env now).session =
      (s.players.get j).any fun player => expires env now player := by
  rw [drops, step_players_get]
  cases s.players.get j with
  | none => rfl
  | some player =>
    simp only [Option.map_some, Option.any_some, expires]
    rw [(tickPlayer_frame env now player _).2.2.1, connected_expireHeartbeat]
    cases player.connected <;> cases timedOut env now player <;> rfl

omit [Field R] [LinearOrder R] [JsMath R] in
/-- An operation that leaves `connected`, or sets it, drops nobody. -/
theorem drops_eq_false {playerId : String} {before after : GameSession R}
    (h : ∀ old new, before.players.get playerId = some old → after.players.get playerId = some new →
      old.connected = true → new.connected = true) : drops playerId before after = false := by
  unfold drops
  split
  next old new hold hnew =>
    cases hconnected : old.connected with
    | false => rfl
    | true => rw [h old new hold hnew hconnected]; rfl
  next => rfl

omit [Field R] [LinearOrder R] [JsMath R] in
theorem drops_withPlayer {s : GameSession R} {id : String}
    {assign : RuntimePlayerState R → RuntimePlayerState R} (playerId : String)
    (hassign : ∀ player, player.connected = true → (assign player).connected = true) :
    drops playerId s (s.withPlayer id assign) = false := by
  refine drops_eq_false fun old new hold hnew hconnected => ?_
  rw [withPlayer_get, hold] at hnew
  split at hnew
  next =>
    cases hnew
    exact hassign old hconnected
  next =>
    cases hnew
    exact hconnected

omit [Field R] [LinearOrder R] [JsMath R] in
/-- `markDisconnected` announces its player and drops it if it is connected. -/
theorem markDisconnected_matched (s : GameSession R) (id : String) :
    (∀ j, announcements j (s.markDisconnected id).2 =
      if drops j s (s.markDisconnected id).1 then 1 else 0) ↔
      ∀ player, s.players.get id = some player → player.connected = true := by
  have hget := withPlayer_get s id fun player => { player with connected := false }
  cases hplayer : s.players.get id with
  | none =>
    refine iff_of_true (fun j => ?_) fun player hfound => by cases hfound
    have hdrops : drops j s (s.markDisconnected id).1 = false := by
      refine drops_eq_false fun old new hold hnew hconnected => ?_
      have hother : j ≠ id := by
        rintro rfl
        cases hplayer.symm.trans hold
      rw [markDisconnected, hget, if_neg hother] at hnew
      cases hold.symm.trans hnew
      exact hconnected
    rw [hdrops, markDisconnected, JsMap.has, hplayer]
    rfl
  | some player =>
    have hannounced : ∀ j, announcements j (s.markDisconnected id).2 = if j = id then 1 else 0 := by
      intro j
      rw [markDisconnected, JsMap.has, hplayer, Option.isSome_some, if_pos rfl, announcements,
        List.countP_singleton, disconnects]
      simp [eq_comm]
    have hdrops : ∀ j, drops j s (s.markDisconnected id).1 =
        (decide (j = id) && player.connected) := by
      intro j
      rw [drops, markDisconnected, hget]
      by_cases hj : j = id
      · subst hj
        simp [hplayer]
      · cases hother : s.players.get j <;> simp [hj]
    constructor
    · intro hmatched other hother
      cases hother
      have hself := hmatched id
      rw [hannounced, hdrops, if_pos rfl, decide_eq_true rfl, Bool.true_and] at hself
      cases hconnected : player.connected with
      | true => rfl
      | false =>
        rw [hconnected] at hself
        cases hself
    · intro hconnected j
      rw [hannounced, hdrops, hconnected player rfl, Bool.and_true]
      exact if_congr (decide_eq_true_iff).symm rfl rfl

/-- The events of an operation match its changes if and only if it does not mark a player
disconnected who is so already. -/
theorem apply_matched (env : Env R) (s : GameSession R) (op : Op R) :
    (∀ id, announcements id (s.apply env op).events =
      if drops id s (s.apply env op).session then 1 else 0) ↔ MarksConnected s op := by
  have hquiet : ∀ {t : GameSession R}, (∀ j, drops j s t = false) →
      ∀ j, announcements j ([] : List (SessionEvent R)) = if drops j s t then 1 else 0 := by
    intro t hdrops j
    rw [hdrops]
    rfl
  cases op with
  | addPlayer now id username =>
    refine iff_of_true (hquiet fun j => drops_eq_false fun old new hold hnew hconnected => ?_)
      fun _ heq => by cases heq
    simp only [GameSession.apply, addPlayer_get] at hnew
    split at hnew
    next hj =>
      cases hnew
      rw [← hj, hold]
    next =>
      cases hold.symm.trans hnew
      exact hconnected
  | removePlayer id =>
    refine iff_of_true (hquiet fun j => drops_eq_false fun old new hold hnew hconnected => ?_)
      fun _ heq => by cases heq
    simp only [GameSession.apply, removePlayer_get] at hnew
    split at hnew
    next => cases hnew
    next =>
      cases hold.symm.trans hnew
      exact hconnected
  | markDisconnected id =>
    refine (markDisconnected_matched s id).trans ⟨fun h other heq => ?_, fun h => h id rfl⟩
    cases heq
    exact h
  | heartbeat now id =>
    exact iff_of_true (hquiet fun j => drops_withPlayer j fun _ _ => rfl) fun _ heq => by cases heq
  | updatePing id ping =>
    exact iff_of_true (hquiet fun j => drops_withPlayer j fun _ h => h) fun _ heq => by cases heq
  | enqueueInput id input =>
    refine iff_of_true (hquiet fun j => drops_eq_false fun old new hold hnew hconnected => ?_)
      fun _ heq => by cases heq
    simp only [GameSession.apply, enqueueInput_players] at hnew
    cases hold.symm.trans hnew
    exact hconnected
  | step now =>
    refine iff_of_true (fun j => ?_) fun _ heq => by cases heq
    simp only [GameSession.apply, announcements_step, drops_step]

/-- One operation from a state that tracks: the overdue players are disconnected, and the
lists stay equal if and only if the operation announces what it changes. -/
theorem tracks_step {env : Env R} {t u : Tracked R} {op : Op R} (h : Tracks env t)
    (hstep : (tracking env).step t op = some u) :
    Tracks env u ↔ MarksConnected t.session op := by
  cases hstep
  rw [← apply_matched env t.session op]
  constructor
  · intro hnext id
    have hlists := hnext.matched id
    dsimp only at hlists
    rw [h.matched id, List.append_cancel_left_eq] at hlists
    have hlength := congrArg List.length hlists
    rw [List.length_replicate] at hlength
    rw [hlength]
    split <;> rfl
  · intro hmatched
    constructor
    case overdue =>
      intro now hticked id player hplayer hoverdue
      cases op with
      | step time =>
        cases hticked
        exact overdue_step hplayer hoverdue
      | _ => cases hticked
    case matched =>
      intro id
      dsimp only
      rw [h.matched id, hmatched id]
      split <;> rfl

/-- For every run of a session: it tracks the connections in every state reached if and only
if every `markDisconnected` finds its player connected. -/
theorem connections_tracked_iff (env : Env R) (roomId : String) (ops : List (Op R)) :
    (tracking env).Along (Tracks env) (startTracked roomId) ops ↔
      (tracking env).StepsMeet (fun t op => MarksConnected t.session op)
        (startTracked roomId) ops := by
  have hstart : Tracks env (startTracked (R := R) roomId) := by
    refine ⟨fun now hticked => ?_, fun _ => rfl⟩
    cases hticked
  exact Machine.along_iff_stepsMeet (fun _ h => h)
    (fun _ _ _ h (_ : True) hstep hmarks => (tracks_step h hstep).mpr hmarks)
    (fun _ _ _ h (_ : True) hstep hnext => (tracks_step h hstep).mp hnext)
    (fun _ _ => trivial) hstart

/-- The tick at 15001 ms disconnects the player, and then its socket closes. -/
noncomputable def closedLate : List (Op ℝ) :=
  [.addPlayer 0 "p1" "nova", .step 15001, .markDisconnected "p1"]

/-- The player is announced twice and has disconnected once. -/
theorem announced_twice :
    ¬(tracking defaultEnv).Along (Tracks defaultEnv) (startTracked "room-1") closedLate := by
  intro halong
  have hrun : ((tracking defaultEnv).exec (startTracked "room-1") closedLate).map
      (fun t => (t.announced "p1", t.changed "p1")) = some ([1, 2], [1]) := rfl
  obtain ⟨t, ht, hlists⟩ := Option.map_eq_some_iff.mp hrun
  obtain ⟨hannounced, hchanged⟩ := Prod.mk.inj hlists
  have hmatched := (halong.last ht).matched "p1"
  rw [hannounced, hchanged] at hmatched
  cases hmatched

end RealtimeGameServer.Guarantees.ConnectionTracking
