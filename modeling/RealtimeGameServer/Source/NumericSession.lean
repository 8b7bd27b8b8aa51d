import RealtimeGameServer.Source.GameSession

/-!
# The game session over any numbers

Source: infrastructure/game/game-session.ts, the operations that compute with numbers or
call what does, with the computation as a parameter (`Numerics`); the others do not depend
on the numbers. Over the numbers of an `Env` the session is the one of `GameSession`
(`apply_ofEnv`). `!==` is `≠`, from which it differs on `NaN` alone. The end of the module
says what a tick makes of each player.
-/
namespace RealtimeGameServer.Source
open Lib

/-- What the session computes: a new player, the result of a movement, and the stored ping. -/
structure Numerics (N : Type*) where
  createRuntimePlayer : (id username : String) → (spawnIndex : Nat) → (now : Int) →
    RuntimePlayerState N
  validateAndApplyMovement : RuntimePlayerState N → MovementInput N → ValidationResult N
  storedPing : N → N
  heartbeatTimeoutMs : Int

namespace Numerics
variable {N : Type*} (K : Numerics N)

def addPlayer (s : GameSession N) (now : Int) (playerId username : String) : GameSession N :=
  match s.players.get playerId with
  | some existing =>
    { s with
      players := s.players.set playerId { existing with connected := true, lastHeartbeatAt := now } }
  | none =>
    { s with
      players := s.players.set playerId
        (K.createRuntimePlayer playerId username s.players.size now)
      pendingInputs := s.pendingInputs.set playerId [] }

def updatePing (s : GameSession N) (playerId : String) (ping : N) : GameSession N :=
  s.withPlayer playerId fun player => { player with ping := K.storedPing ping }

def timedOut (now : Int) (state : RuntimePlayerState N) : Bool :=
  now - state.lastHeartbeatAt > K.heartbeatTimeoutMs

def expireHeartbeat (now : Int) (state : RuntimePlayerState N) : RuntimePlayerState N :=
  if K.timedOut now state && state.connected then { state with connected := false } else state

/-- The `while` loop, on the `state` that the `for` loop has bound. -/
def drainQueue (playerId : String) (state : RuntimePlayerState N) :
    List (MovementInput N) → JsMap String (RuntimePlayerState N) →
      JsMap String (RuntimePlayerState N)
  | [], players => players
  | input :: queue, players =>
    let result := K.validateAndApplyMovement state input
    drainQueue playerId state queue
      (if result.accepted then players.set playerId result.state else players)

/-- What the loop over `this.players` carries. -/
structure Sweep (N : Type*) where
  players : JsMap String (RuntimePlayerState N)
  pendingInputs : JsMap String (List (MovementInput N))
  events : List (SessionEvent N)

/-- The body of `for (const [playerId, state] of this.players)`. -/
def visit (now : Int) (acc : Sweep N) (playerId : String) : Sweep N :=
  match acc.players.get playerId with
  | none => acc
  | some bound =>
    let expired := K.timedOut now bound && bound.connected
    let state := K.expireHeartbeat now bound
    let players := if expired then acc.players.set playerId state else acc.players
    { players :=
        K.drainQueue playerId state ((acc.pendingInputs.get playerId).getD []) players
      pendingInputs :=
        if acc.pendingInputs.has playerId then acc.pendingInputs.set playerId []
        else acc.pendingInputs
      events := acc.events ++ if expired then [SessionEvent.playerDisconnected playerId] else [] }

def sweep (now : Int) (s : GameSession N) : Sweep N :=
  s.players.keys.foldl (K.visit now) ⟨s.players, s.pendingInputs, []⟩

/-- The tail of `step`. -/
def publish [DecidableEq N] (now : Int) (s : GameSession N) :
    GameSession N × Option (SnapshotMessage N) :=
  let snapshots := s.players.values.map toPlayerSnapshot
  let store := fun (acc : JsMap String (PlayerSnapshot N)) (snapshot : PlayerSnapshot N) =>
    acc.set snapshot.id snapshot
  if s.shouldFull then
    ({ s with previousSnapshots := snapshots.foldl store JsMap.empty },
      some (.full { tick := s.tick, serverTime := now, players := snapshots }))
  else
    let (changes, removed) := computeDelta s.previousSnapshots snapshots
    let s' :=
      { s with
        previousSnapshots :=
          snapshots.foldl store (removed.foldl JsMap.delete s.previousSnapshots) }
    if changes.length = 0 ∧ removed.length = 0 then (s', none)
    else
      (s', some (.delta
        { tick := s.tick, serverTime := now, baseTick := s.tick - 1, changes, removed }))

@[simp] theorem publish_players [DecidableEq N] (now : Int) (s : GameSession N) :
    (publish now s).1.players = s.players := by
  unfold publish
  dsimp only
  split
  next => rfl
  next => split <;> rfl

/-- The session that the tail of `step` publishes. -/
def swept (now : Int) (s : GameSession N) : GameSession N :=
  let result := K.sweep now { s with tick := s.tick + 1 }
  { s with tick := s.tick + 1, players := result.players, pendingInputs := result.pendingInputs }

def step [DecidableEq N] (now : Int) (s : GameSession N) :
    GameSession N × List (SessionEvent N) :=
  let published := publish now (K.swept now s)
  (published.1, (K.sweep now { s with tick := s.tick + 1 }).events ++
    (published.2.map SessionEvent.snapshot).toList)

/-- One operation, with the events it emits. -/
def apply [DecidableEq N] (s : GameSession N) :
    GameSession.Op N → GameSession N × List (SessionEvent N)
  | .addPlayer now playerId username => (K.addPlayer s now playerId username, [])
  | .removePlayer playerId => (s.removePlayer playerId, [])
  | .markDisconnected playerId => s.markDisconnected playerId
  | .heartbeat now playerId => (s.heartbeat now playerId, [])
  | .updatePing playerId ping => (K.updatePing s playerId ping, [])
  | .enqueueInput playerId input => ((s.enqueueInput playerId input).1, [])
  | .step now => K.step now s

section OfEnv
variable {R : Type*} [Field R] [LinearOrder R] [JsMath R]

def ofEnv (env : Env R) : Numerics R where
  createRuntimePlayer := Source.createRuntimePlayer
  validateAndApplyMovement state input :=
    Source.validateAndApplyMovement state input env.maxMoveSpeed
  storedPing ping := max 0 (JsMath.round ping)
  heartbeatTimeoutMs := env.heartbeatTimeoutMs

theorem drainQueue_ofEnv (env : Env R) (playerId : String) (state : RuntimePlayerState R)
    (queue : List (MovementInput R)) (players : JsMap String (RuntimePlayerState R)) :
    (ofEnv env).drainQueue playerId state queue players =
      (GameSession.drainQueue env playerId state queue players).1 := by
  induction queue generalizing players with
  | nil => rfl
  | cons input rest ih => exact ih _

theorem visits_ofEnv (env : Env R) (now : Int) (ids : List String) (acc : Sweep R)
    (other : GameSession.Sweep R) (hplayers : acc.players = other.players)
    (hpending : acc.pendingInputs = other.pendingInputs) (hevents : acc.events = other.events) :
    (ids.foldl ((ofEnv env).visit now) acc).players =
        (ids.foldl (GameSession.visit env now) other).players ∧
      (ids.foldl ((ofEnv env).visit now) acc).pendingInputs =
        (ids.foldl (GameSession.visit env now) other).pendingInputs ∧
      (ids.foldl ((ofEnv env).visit now) acc).events =
        (ids.foldl (GameSession.visit env now) other).events := by
  induction ids generalizing acc other with
  | nil => exact ⟨hplayers, hpending, hevents⟩
  | cons id rest ih =>
    rw [List.foldl_cons, List.foldl_cons]
    have hbody : ((ofEnv env).visit now acc id).players =
          (GameSession.visit env now other id).players ∧
        ((ofEnv env).visit now acc id).pendingInputs =
          (GameSession.visit env now other id).pendingInputs ∧
        ((ofEnv env).visit now acc id).events = (GameSession.visit env now other id).events := by
      unfold visit GameSession.visit
      rw [hplayers, hpending, hevents]
      cases other.players.get id with
      | none => exact ⟨hplayers, hpending, hevents⟩
      | some bound => exact ⟨drainQueue_ofEnv env id _ _ _, rfl, rfl⟩
    exact ih _ _ hbody.1 hbody.2.1 hbody.2.2

/-- Over the numbers of an environment this is the session of `GameSession`. -/
theorem apply_ofEnv (env : Env R) (s : GameSession R) (op : GameSession.Op R) :
    (ofEnv env).apply s op = ((s.apply env op).session, (s.apply env op).events) := by
  cases op with
  | step now =>
    obtain ⟨hplayers, hpending, hevents⟩ := visits_ofEnv env now s.players.keys
      ⟨s.players, s.pendingInputs, []⟩ ⟨s.players, s.pendingInputs, [], []⟩ rfl rfl rfl
    have hswept : (ofEnv env).swept now s = { s with
        tick := s.tick + 1
        players := (GameSession.sweep env now { s with tick := s.tick + 1 }).players
        pendingInputs := (GameSession.sweep env now { s with tick := s.tick + 1 }).pendingInputs } := by
      rw [swept, sweep, hplayers, hpending]
      rfl
    have hsweep : ((ofEnv env).sweep now { s with tick := s.tick + 1 }).events =
        (GameSession.sweep env now { s with tick := s.tick + 1 }).events := hevents
    rw [apply, step, hswept, hsweep]
    rfl
  | _ => rfl

end OfEnv

/-- The last queued input that is accepted for a player, against the state that the loop
has bound. -/
def lastAccepted (now : Int) (player : RuntimePlayerState N) (queue : List (MovementInput N)) :
    Option (MovementInput N) :=
  (queue.filter fun input =>
    (K.validateAndApplyMovement (K.expireHeartbeat now player) input).accepted).getLast?

def tickPlayer (now : Int) (player : RuntimePlayerState N) (queue : List (MovementInput N)) :
    RuntimePlayerState N :=
  match K.lastAccepted now player queue with
  | none => K.expireHeartbeat now player
  | some input => (K.validateAndApplyMovement (K.expireHeartbeat now player) input).state

/-- Of the accepted results the last one stays. -/
theorem drainQueue_eq (playerId : String) (state : RuntimePlayerState N)
    (queue : List (MovementInput N)) (players : JsMap String (RuntimePlayerState N)) :
    K.drainQueue playerId state queue players =
      match (queue.filter fun input => (K.validateAndApplyMovement state input).accepted).getLast?
      with
      | none => players
      | some input => players.set playerId (K.validateAndApplyMovement state input).state := by
  induction queue generalizing players with
  | nil => rfl
  | cons input rest ih =>
    rw [drainQueue, ih, List.filter_cons]
    split_ifs with haccepted
    · rw [List.getLast?_cons]
      cases (rest.filter fun input => (K.validateAndApplyMovement state input).accepted).getLast? with
      | none => rfl
      | some last => exact JsMap.set_set _ _ _ _
    · rfl

theorem visit_players_get (now : Int) {acc : Sweep N} {playerId : String}
    {player : RuntimePlayerState N} (present : acc.players.get playerId = some player) (j : String) :
    (K.visit now acc playerId).players.get j =
      if j = playerId then
        some (K.tickPlayer now player ((acc.pendingInputs.get playerId).getD []))
      else acc.players.get j := by
  have hbound : ∀ i, (if K.timedOut now player && player.connected then
      acc.players.set playerId (K.expireHeartbeat now player) else acc.players).get i =
        if i = playerId then some (K.expireHeartbeat now player) else acc.players.get i := by
    intro i
    split
    next => exact JsMap.get_set _ _ _ _
    next hexpired =>
      have hsame : K.expireHeartbeat now player = player := if_neg hexpired
      rw [hsame]
      split
      next hi => rw [hi, present]
      next => rfl
  simp only [visit, present, drainQueue_eq]
  rw [tickPlayer, lastAccepted]
  cases (((acc.pendingInputs.get playerId).getD []).filter fun input =>
      (K.validateAndApplyMovement (K.expireHeartbeat now player) input).accepted).getLast? with
  | none => exact hbound j
  | some input =>
    dsimp only
    rw [JsMap.get_set, hbound]
    split <;> rfl

theorem visit_pending_get (now : Int) (acc : Sweep N) (playerId j : String) :
    (K.visit now acc playerId).pendingInputs.get j = acc.pendingInputs.get j ∨
      (K.visit now acc playerId).pendingInputs.get j = some [] ∧ j = playerId := by
  unfold visit
  split
  next => exact Or.inl rfl
  next =>
    dsimp only
    split
    next =>
      rw [JsMap.get_set]
      split
      next hj => exact Or.inr ⟨rfl, hj⟩
      next => exact Or.inl rfl
    next => exact Or.inl rfl

/-- The loop over distinct present keys, from any point of the sweep. -/
theorem visits_players_get (now : Int) (ids : List String) (acc : Sweep N) (distinct : ids.Nodup)
    (present : ∀ id ∈ ids, (acc.players.get id).isSome) (j : String) :
    (ids.foldl (K.visit now) acc).players.get j =
      if j ∈ ids then (acc.players.get j).map fun player =>
        K.tickPlayer now player ((acc.pendingInputs.get j).getD [])
      else acc.players.get j := by
  induction ids generalizing acc with
  | nil => simp
  | cons id rest ih =>
    obtain ⟨habsent, hrest⟩ := List.nodup_cons.mp distinct
    obtain ⟨player, hplayer⟩ := Option.isSome_iff_exists.mp (present id List.mem_cons_self)
    have hget := K.visit_players_get now hplayer
    -- a key of the rest is not the one just visited, so its entries are untouched
    have hne : ∀ i ∈ rest, i ≠ id := fun i hi heq => habsent (heq ▸ hi)
    have hframe : ∀ i ∈ rest, (K.visit now acc id).players.get i = acc.players.get i :=
      fun i hi => (hget i).trans (if_neg (hne i hi))
    rw [List.foldl_cons, ih _ hrest fun i hi => by
      rw [hframe i hi]
      exact present i (List.mem_cons_of_mem _ hi)]
    by_cases hj : j ∈ rest
    · have hpending := (K.visit_pending_get now acc id j).resolve_right fun h => hne j hj h.2
      rw [if_pos hj, if_pos (List.mem_cons_of_mem _ hj), hframe j hj, hpending]
    · rw [if_neg hj, hget]
      by_cases hid : j = id
      · subst hid
        simp [hplayer]
      · simp [hid, hj]

theorem swept_players_get (now : Int) (s : GameSession N) (j : String) :
    (K.swept now s).players.get j =
      (s.players.get j).map fun player =>
        K.tickPlayer now player ((s.pendingInputs.get j).getD []) := by
  refine (K.visits_players_get now s.players.keys ⟨s.players, s.pendingInputs, []⟩
    s.players.unique (fun id hid => ?_) j).trans ?_
  · exact Option.isSome_iff_exists.mpr ((JsMap.mem_keys _ _).mp hid)
  · split
    next => rfl
    next hj =>
      dsimp only
      rw [(JsMap.get_eq_none _ _).mpr hj]
      rfl

/-- The tick fills no queue. -/
theorem swept_pending_get (now : Int) (s : GameSession N) (j : String) :
    (K.swept now s).pendingInputs.get j = s.pendingInputs.get j ∨
      (K.swept now s).pendingInputs.get j = some [] := by
  have general : ∀ (ids : List String) (acc : Sweep N),
      (ids.foldl (K.visit now) acc).pendingInputs.get j = acc.pendingInputs.get j ∨
        (ids.foldl (K.visit now) acc).pendingInputs.get j = some [] := by
    intro ids
    induction ids with
    | nil => exact fun acc => Or.inl rfl
    | cons id rest ih =>
      intro acc
      rcases ih (K.visit now acc id) with hsame | hempty
      · rcases K.visit_pending_get now acc id j with hkept | hdrained
        · exact Or.inl (hsame.trans hkept)
        · exact Or.inr (hsame.trans hdrained.1)
      · exact Or.inr hempty
  exact general s.players.keys ⟨s.players, s.pendingInputs, []⟩

end Numerics
end RealtimeGameServer.Source
