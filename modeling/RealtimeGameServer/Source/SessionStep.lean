import RealtimeGameServer.Lib.Sequenced
import RealtimeGameServer.Source.GameSession

/-!
# What one tick does to each player

The loop of `GameSession.step` reduced to one equation for each player: the
tick replaces a player by `tickPlayer` of that player and its queue, empties
the queue and leaves every key where it is. Everything proved about runs cites
these equations; the loops themselves are unfolded here only.
-/
namespace RealtimeGameServer.Source.GameSession
open Lib

variable {R : Type*} [Field R] [LinearOrder R] [JsMath R]

/-- Movement inputs as sequence-numbered inputs. -/
def movement (env : Env R) : Sequenced (RuntimePlayerState R) (MovementInput R) R where
  accept s i := (validateAndApplyMovement s i env.maxMoveSpeed).accepted
  apply s i := advance env.maxMoveSpeed s i
  counter s := s.lastProcessedInputSeq
  seq i := i.seq
  fresh h := (validate_accepted h).1
  counter_apply _ _ := rfl

/-- A player after the tick: the heartbeat check, then the stale-base fold of
its queue over the state the loop bound. -/
def tickPlayer (env : Env R) (now : Int) (player : RuntimePlayerState R)
    (queue : List (MovementInput R)) : RuntimePlayerState R :=
  (movement env).stale (expireHeartbeat env now player) queue

/-- The validations the tick makes for one player. -/
def tickValidations (env : Env R) (now : Int) (playerId : String) (player : RuntimePlayerState R)
    (queue : List (MovementInput R)) : List (Validation R) :=
  let state := expireHeartbeat env now player
  queue.map fun input =>
    ⟨playerId, state, input, validateAndApplyMovement state input env.maxMoveSpeed⟩

/-- The queue the tick drains for a player. -/
def queueOf (s : GameSession R) (playerId : String) : List (MovementInput R) :=
  (s.pendingInputs.get playerId).getD []

theorem drainQueue_keys (env : Env R) (playerId : String) (state : RuntimePlayerState R)
    (queue : List (MovementInput R)) (players : JsMap String (RuntimePlayerState R))
    (present : playerId ∈ players.keys) :
    (drainQueue env playerId state queue players).1.keys = players.keys := by
  induction queue generalizing players with
  | nil => rfl
  | cons input rest ih =>
    simp only [drainQueue]
    split
    next =>
      have hkeys := JsMap.keys_set_of_mem present
        (validateAndApplyMovement state input env.maxMoveSpeed).state
      rw [ih _ (by rw [hkeys]; exact present), hkeys]
    next => exact ih _ present

theorem drainQueue_get (env : Env R) (playerId : String) (state held : RuntimePlayerState R)
    (queue : List (MovementInput R)) (players : JsMap String (RuntimePlayerState R))
    (present : players.get playerId = some held) (j : String) :
    (drainQueue env playerId state queue players).1.get j =
      if j = playerId then some ((movement env).staleFrom state held queue)
      else players.get j := by
  induction queue generalizing players held with
  | nil =>
    by_cases hj : j = playerId
    · rw [if_pos hj, hj]
      exact present
    · rw [if_neg hj]
      rfl
  | cons input rest ih =>
    simp only [drainQueue]
    rw [Sequenced.staleFrom_cons]
    by_cases hacc : (validateAndApplyMovement state input env.maxMoveSpeed).accepted = true
    · have hstate := (validate_accepted hacc).2.2
      rw [if_pos hacc, ih _ _ (JsMap.get_set_self _ _ _), JsMap.get_set, hstate,
        if_pos (show (movement env).accept state input = true from hacc)]
      split <;> rfl
    · rw [if_neg hacc, ih _ _ present,
        if_neg (show ¬(movement env).accept state input = true from hacc)]

theorem drainQueue_validations (env : Env R) (playerId : String) (state : RuntimePlayerState R)
    (queue : List (MovementInput R)) (players : JsMap String (RuntimePlayerState R)) :
    (drainQueue env playerId state queue players).2 =
      queue.map fun input =>
        ⟨playerId, state, input, validateAndApplyMovement state input env.maxMoveSpeed⟩ := by
  induction queue generalizing players with
  | nil => rfl
  | cons input rest ih => simp only [drainQueue, List.map_cons, ih]

section Visit
variable (env : Env R) (now : Int) {acc : Sweep R} {playerId : String}
  {player : RuntimePlayerState R}

theorem visit_keys (present : acc.players.get playerId = some player) :
    (visit env now acc playerId).players.keys = acc.players.keys := by
  have hmem : playerId ∈ acc.players.keys := (JsMap.mem_keys _ _).mpr ⟨player, present⟩
  simp only [visit, present]
  split
  next =>
    have hkeys := JsMap.keys_set_of_mem hmem (expireHeartbeat env now player)
    rw [drainQueue_keys _ _ _ _ _ (by rw [hkeys]; exact hmem), hkeys]
  next => exact drainQueue_keys _ _ _ _ _ hmem

theorem visit_get (present : acc.players.get playerId = some player) (j : String) :
    (visit env now acc playerId).players.get j =
      if j = playerId then
        some (tickPlayer env now player ((acc.pendingInputs.get playerId).getD []))
      else acc.players.get j := by
  simp only [visit, present]
  split
  next =>
    rw [drainQueue_get _ _ _ _ _ _ (JsMap.get_set_self _ _ _), JsMap.get_set]
    split <;> rfl
  next hexpired =>
    have hsame : expireHeartbeat env now player = player := by
      rw [expireHeartbeat, if_neg hexpired]
    rw [drainQueue_get _ _ _ _ _ _ present, tickPlayer, Sequenced.stale, hsame]

theorem visit_pending (present : acc.players.get playerId = some player) (j : String) :
    (visit env now acc playerId).pendingInputs.get j =
      if j = playerId then (acc.pendingInputs.get j).map fun _ => []
      else acc.pendingInputs.get j := by
  simp only [visit, present]
  by_cases hj : j = playerId
  · subst hj
    rw [if_pos rfl]
    cases hq : acc.pendingInputs.get j with
    | none => simp [JsMap.has, hq]
    | some queue => simp [JsMap.has, hq]
  · rw [if_neg hj]
    split
    next => exact JsMap.get_set_of_ne _ hj _
    next => rfl

theorem visit_validations (present : acc.players.get playerId = some player) :
    (visit env now acc playerId).validations = acc.validations ++
      tickValidations env now playerId player ((acc.pendingInputs.get playerId).getD []) := by
  simp only [visit, present, drainQueue_validations, tickValidations]

end Visit

/-- The loop over distinct present keys, from any point of the sweep. -/
theorem visits_spec (env : Env R) (now : Int) (ids : List String) (acc : Sweep R)
    (distinct : ids.Nodup) (present : ∀ id ∈ ids, id ∈ acc.players.keys) :
    (ids.foldl (visit env now) acc).players.keys = acc.players.keys ∧
    (∀ j, (ids.foldl (visit env now) acc).players.get j =
      if j ∈ ids then (acc.players.get j).map fun player =>
        tickPlayer env now player ((acc.pendingInputs.get j).getD [])
      else acc.players.get j) ∧
    (∀ j, (ids.foldl (visit env now) acc).pendingInputs.get j =
      if j ∈ ids then (acc.pendingInputs.get j).map fun _ => [] else acc.pendingInputs.get j) ∧
    (ids.foldl (visit env now) acc).validations = acc.validations ++
      ids.flatMap fun id => ((acc.players.get id).map fun player =>
        tickValidations env now id player ((acc.pendingInputs.get id).getD [])).getD [] := by
  induction ids generalizing acc with
  | nil => simp
  | cons id rest ih =>
    obtain ⟨habsent, hrest⟩ := List.nodup_cons.mp distinct
    obtain ⟨player, hplayer⟩ := (JsMap.mem_keys _ _).mp (present id List.mem_cons_self)
    have hkeys := visit_keys env now hplayer
    have hget := visit_get env now hplayer
    have hpending := visit_pending env now hplayer
    obtain ⟨hk, hg, hp, hv⟩ := ih (visit env now acc id) hrest (fun j hj => by
      rw [hkeys]
      exact present j (List.mem_cons_of_mem _ hj))
    -- a key of the rest is not the one just visited, so its entries are untouched
    have hframe : ∀ j ∈ rest, (visit env now acc id).players.get j = acc.players.get j ∧
        (visit env now acc id).pendingInputs.get j = acc.pendingInputs.get j := by
      intro j hj
      have hne : j ≠ id := fun h => habsent (h ▸ hj)
      exact ⟨by rw [hget, if_neg hne], by rw [hpending, if_neg hne]⟩
    rw [List.foldl_cons]
    refine ⟨hk.trans hkeys, fun j => ?_, fun j => ?_, ?_⟩
    · rw [hg]
      by_cases hj : j ∈ rest
      · rw [if_pos hj, if_pos (List.mem_cons_of_mem _ hj), (hframe j hj).1, (hframe j hj).2]
      · rw [if_neg hj, hget]
        by_cases hid : j = id
        · subst hid
          simp [hplayer]
        · simp [hid, hj]
    · rw [hp]
      by_cases hj : j ∈ rest
      · rw [if_pos hj, if_pos (List.mem_cons_of_mem _ hj), (hframe j hj).2]
      · rw [if_neg hj, hpending]
        by_cases hid : j = id
        · subst hid
          simp
        · simp [hid, hj]
    · rw [hv, visit_validations env now hplayer, List.append_assoc, List.flatMap_cons, hplayer]
      congr 2
      refine List.flatMap_congr fun j hj => ?_
      rw [(hframe j hj).1, (hframe j hj).2]

theorem sweep_get (env : Env R) (now : Int) (s : GameSession R) (j : String) :
    (sweep env now s).players.get j =
      (s.players.get j).map fun player => tickPlayer env now player (s.queueOf j) := by
  have h := (visits_spec env now s.players.keys ⟨s.players, s.pendingInputs, [], []⟩
    s.players.unique fun _ h => h).2.1 j
  rw [sweep, h]
  split
  next => rfl
  next hj =>
    dsimp only
    rw [(JsMap.get_eq_none _ _).mpr hj]
    rfl

theorem sweep_validations (env : Env R) (now : Int) (s : GameSession R) :
    (sweep env now s).validations = s.players.keys.flatMap fun id =>
      ((s.players.get id).map fun player =>
        tickValidations env now id player (s.queueOf id)).getD [] :=
  (visits_spec env now s.players.keys ⟨s.players, s.pendingInputs, [], []⟩
    s.players.unique fun _ h => h).2.2.2

section Publish
omit [Field R] [JsMath R]

@[simp] theorem publish_players (now : Int) (s : GameSession R) :
    (publish now s).1.players = s.players := by
  unfold publish
  dsimp only
  repeat' split
  all_goals rfl

@[simp] theorem publish_tick (now : Int) (s : GameSession R) :
    (publish now s).1.tick = s.tick := by
  unfold publish
  dsimp only
  repeat' split
  all_goals rfl

end Publish

theorem step_players_get (env : Env R) (now : Int) (s : GameSession R) (j : String) :
    (s.step env now).session.players.get j =
      (s.players.get j).map fun player => tickPlayer env now player (s.queueOf j) := by
  simp only [step, publish_players]
  exact sweep_get env now { s with tick := s.tick + 1 } j

theorem step_validations (env : Env R) (now : Int) (s : GameSession R) :
    (s.step env now).validations = s.players.keys.flatMap fun id =>
      ((s.players.get id).map fun player =>
        tickValidations env now id player (s.queueOf id)).getD [] :=
  sweep_validations env now { s with tick := s.tick + 1 }

/-- Only the visits of a key make validations in that key's name. -/
theorem step_validations_of (env : Env R) (now : Int) (s : GameSession R) (j : String) :
    (s.step env now).validations.filter (fun v => v.playerId = j) =
      ((s.players.get j).map fun player =>
        tickValidations env now j player (s.queueOf j)).getD [] := by
  have hnames : ∀ id, ∀ v ∈ ((s.players.get id).map fun player =>
      tickValidations env now id player (s.queueOf id)).getD [], v.playerId = id := by
    intro id v hv
    cases hp : s.players.get id with
    | none => simp [hp] at hv
    | some player =>
      simp only [hp, Option.map_some, Option.getD_some, tickValidations, List.mem_map] at hv
      obtain ⟨input, _, rfl⟩ := hv
      rfl
  have general : ∀ ids : List String, ids.Nodup →
      (ids.flatMap fun id => ((s.players.get id).map fun player =>
        tickValidations env now id player (s.queueOf id)).getD []).filter
          (fun v => v.playerId = j) =
      if j ∈ ids then ((s.players.get j).map fun player =>
        tickValidations env now j player (s.queueOf j)).getD [] else [] := by
    intro ids hnodup
    induction ids with
    | nil => rfl
    | cons id rest ih =>
      obtain ⟨habsent, hrest⟩ := List.nodup_cons.mp hnodup
      rw [List.flatMap_cons, List.filter_append, ih hrest]
      by_cases hid : id = j
      · subst hid
        rw [if_neg habsent, if_pos List.mem_cons_self, List.append_nil, List.filter_eq_self]
        exact fun v hv => decide_eq_true (hnames id v hv)
      · have hempty : (((s.players.get id).map fun player =>
            tickValidations env now id player (s.queueOf id)).getD []).filter
              (fun v => v.playerId = j) = [] := by
          rw [List.filter_eq_nil_iff]
          intro v hv hvj
          exact hid ((hnames id v hv).symm.trans (of_decide_eq_true hvj))
        rw [hempty, List.nil_append]
        simp [Ne.symm hid]
  rw [step_validations, general s.players.keys s.players.unique]
  split
  next => rfl
  next hj => rw [(JsMap.get_eq_none _ _).mpr hj]; rfl

omit [LinearOrder R] in
theorem addPlayer_get (s : GameSession R) (now : Int) (id username j : String) :
    (s.addPlayer now id username).players.get j =
      if j = id then some (match s.players.get id with
        | some existing => { existing with connected := true, lastHeartbeatAt := now }
        | none => createRuntimePlayer id username s.players.size now)
      else s.players.get j := by
  unfold addPlayer
  cases h : s.players.get id <;> exact JsMap.get_set s.players id j _

section Frames
omit [Field R] [LinearOrder R] [JsMath R]

theorem removePlayer_get (s : GameSession R) (id j : String) :
    (s.removePlayer id).players.get j = if j = id then none else s.players.get j :=
  JsMap.get_delete _ _ _

theorem withPlayer_get (s : GameSession R) (id : String)
    (assign : RuntimePlayerState R → RuntimePlayerState R) (j : String) :
    (s.withPlayer id assign).players.get j =
      if j = id then (s.players.get j).map assign else s.players.get j := by
  unfold withPlayer
  split
  next h =>
    split
    next hj => rw [hj, h]; rfl
    next => rfl
  next player h =>
    rw [JsMap.get_set]
    split
    next hj => rw [hj, h]; rfl
    next => rfl

@[simp] theorem withPlayer_previousSnapshots (s : GameSession R) (id : String)
    (assign : RuntimePlayerState R → RuntimePlayerState R) :
    (s.withPlayer id assign).previousSnapshots = s.previousSnapshots := by
  unfold withPlayer
  split <;> rfl

@[simp] theorem withPlayer_tick (s : GameSession R) (id : String)
    (assign : RuntimePlayerState R → RuntimePlayerState R) :
    (s.withPlayer id assign).tick = s.tick := by
  unfold withPlayer
  split <;> rfl

@[simp] theorem enqueueInput_players (s : GameSession R) (id : String)
    (input : MovementInput R) : (s.enqueueInput id input).1.players = s.players := by
  unfold enqueueInput
  split <;> rfl

end Frames

section Queues
omit [Field R] [LinearOrder R] [JsMath R]

@[simp] theorem withPlayer_roomId (s : GameSession R) (id : String)
    (assign : RuntimePlayerState R → RuntimePlayerState R) :
    (s.withPlayer id assign).roomId = s.roomId := by
  unfold withPlayer
  split <;> rfl

@[simp] theorem withPlayer_pendingInputs (s : GameSession R) (id : String)
    (assign : RuntimePlayerState R → RuntimePlayerState R) :
    (s.withPlayer id assign).pendingInputs = s.pendingInputs := by
  unfold withPlayer
  split <;> rfl

@[simp] theorem enqueueInput_roomId (s : GameSession R) (id : String) (input : MovementInput R) :
    (s.enqueueInput id input).1.roomId = s.roomId := by
  unfold enqueueInput
  split <;> rfl

/-- The queue after `enqueueInput`: the oldest input makes room if it is full. -/
def pushInput (queue : List (MovementInput R)) (input : MovementInput R) : List (MovementInput R) :=
  (if queue.length ≥ maxPendingInputs then queue.tail else queue) ++ [input]

theorem enqueueInput_pending_get (s : GameSession R) (id : String) (input : MovementInput R)
    (j : String) : (s.enqueueInput id input).1.pendingInputs.get j =
      if j = id then (s.pendingInputs.get j).map (pushInput · input)
      else s.pendingInputs.get j := by
  unfold enqueueInput
  split
  next hnone =>
    split
    next hj =>
      rw [hj, hnone]
      rfl
    next => rfl
  next queue hqueue =>
    rw [JsMap.get_set]
    split
    next hj =>
      rw [hj, hqueue]
      rfl
    next => rfl

theorem enqueueInput_accepted (s : GameSession R) (id : String) (input : MovementInput R) :
    (s.enqueueInput id input).2 = (s.pendingInputs.get id).isSome := by
  unfold enqueueInput
  split
  next hnone =>
    rw [hnone]
    rfl
  next queue hqueue =>
    rw [hqueue]
    rfl

theorem removePlayer_pending_get (s : GameSession R) (id j : String) :
    (s.removePlayer id).pendingInputs.get j = if j = id then none else s.pendingInputs.get j :=
  JsMap.get_delete _ _ _

theorem queueOf_enqueueInput_of_ne (s : GameSession R) {id j : String} (h : j ≠ id)
    (input : MovementInput R) : (s.enqueueInput id input).1.queueOf j = s.queueOf j := by
  unfold enqueueInput queueOf
  split
  next => rfl
  next => rw [JsMap.get_set_of_ne _ h]

/-- An accepted input is in the queue. -/
theorem queueOf_enqueueInput_ne_nil {s t : GameSession R} {id : String} {input : MovementInput R}
    (h : s.enqueueInput id input = (t, true)) : t.queueOf id ≠ [] := by
  unfold enqueueInput at h
  split at h
  next => cases h
  next =>
    cases h
    rw [queueOf, JsMap.get_set_self, Option.getD_some]
    exact List.append_ne_nil_of_right_ne_nil _ (List.cons_ne_nil _ _)

theorem withPlayer_eq_self (s : GameSession R) (id : String)
    (assign : RuntimePlayerState R → RuntimePlayerState R) :
    s.withPlayer id assign = s ↔ ∀ player, s.players.get id = some player → assign player = player := by
  unfold withPlayer
  split
  next h =>
    refine iff_of_true rfl fun player hplayer => ?_
    cases h.symm.trans hplayer
  next player h =>
    constructor
    · intro hsame other hother
      cases h.symm.trans hother
      have hplayers := congrArg GameSession.players hsame
      rw [JsMap.set_eq_self, h] at hplayers
      exact (Option.some.inj hplayers).symm
    · intro hassign
      have hplayers : s.players.set id (assign player) = s.players := by
        rw [JsMap.set_eq_self, hassign player h]
        exact h
      rw [hplayers]

/-- The queue is as long as it gets and holds nothing but this input. -/
def FullOf (input : MovementInput R) (queue : List (MovementInput R)) : Prop :=
  maxPendingInputs ≤ queue.length ∧ ∀ queued ∈ queue, queued = input

theorem tail_append_eq_self {α : Type*} {x : α} {l : List α} (h : l ≠ []) :
    l.tail ++ [x] = l ↔ ∀ a ∈ l, a = x := by
  induction l with
  | nil => exact absurd rfl h
  | cons a rest ih =>
    rw [List.tail_cons]
    cases rest with
    | nil => simp [eq_comm]
    | cons b rest =>
      have ih := ih (List.cons_ne_nil b rest)
      rw [List.tail_cons] at ih
      constructor
      · intro hsame
        obtain ⟨rfl, hrest⟩ := List.cons.inj hsame
        have hall := ih.mp hrest
        intro c hc
        rcases List.mem_cons.mp hc with rfl | hc
        · exact hall c List.mem_cons_self
        · exact hall c hc
      · intro hall
        have hb := hall b (List.mem_cons_of_mem a List.mem_cons_self)
        have ha := hall a List.mem_cons_self
        have hrest := ih.mpr fun c hc => hall c (List.mem_cons_of_mem a hc)
        rw [List.cons_append, hrest, hb, ha]

/-- An input leaves the session as it is if the player has no queue, or a full one
that holds nothing else. -/
theorem enqueueInput_eq_self (s : GameSession R) (id : String) (input : MovementInput R) :
    (s.enqueueInput id input).1 = s ↔
      ∀ queue, s.pendingInputs.get id = some queue → FullOf input queue := by
  unfold enqueueInput
  split
  next h =>
    refine iff_of_true rfl fun queue hqueue => ?_
    cases h.symm.trans hqueue
  next queue h =>
    have hkept : ({ s with
        pendingInputs := s.pendingInputs.set id
          ((if queue.length ≥ maxPendingInputs then queue.tail else queue) ++ [input]) } = s) ↔
        FullOf input queue := by
      constructor
      · intro hsame
        have hpending := congrArg GameSession.pendingInputs hsame
        rw [JsMap.set_eq_self, h] at hpending
        have hqueue := (Option.some.inj hpending).symm
        split at hqueue
        next hfull =>
          have hsome : queue ≠ [] := by
            rintro rfl
            exact Nat.not_succ_le_zero _ hfull
          exact ⟨hfull, (tail_append_eq_self hsome).mp hqueue⟩
        next =>
          have hlength := congrArg List.length hqueue
          rw [List.length_append, List.length_singleton] at hlength
          omega
      · rintro ⟨hfull, hall⟩
        have hsome : queue ≠ [] := by
          rintro rfl
          exact Nat.not_succ_le_zero _ hfull
        rw [if_pos hfull, (tail_append_eq_self hsome).mpr hall, (JsMap.set_eq_self _ _ _).mpr h]
    rw [hkept]
    constructor
    · intro hfull other hother
      cases h.symm.trans hother
      exact hfull
    · exact fun hall => hall queue h

end Queues

omit [LinearOrder R] in
@[simp] theorem addPlayer_roomId (s : GameSession R) (now : Int) (id username : String) :
    (s.addPlayer now id username).roomId = s.roomId := by
  unfold addPlayer
  split <;> rfl

omit [LinearOrder R] in
theorem addPlayer_pending_get (s : GameSession R) (now : Int) (id username j : String) :
    (s.addPlayer now id username).pendingInputs.get j =
      if j = id ∧ s.players.get id = none then some [] else s.pendingInputs.get j := by
  unfold addPlayer
  split
  next existing hexisting =>
    rw [hexisting, if_neg]
    rintro ⟨-, hnone⟩
    cases hnone
  next hnone =>
    rw [JsMap.get_set, hnone]
    exact if_congr (and_iff_left rfl).symm rfl rfl

omit [LinearOrder R] in
theorem queueOf_addPlayer (s : GameSession R) (now : Int) (id username : String) {j : String}
    (h : s.queueOf j = []) : (s.addPlayer now id username).queueOf j = [] := by
  unfold addPlayer
  split
  next => exact h
  next =>
    rw [queueOf, JsMap.get_set]
    split
    next => rfl
    next => exact h

section Publish
omit [Field R] [JsMath R]

theorem publish_roomId (now : Int) (s : GameSession R) :
    (publish now s).1.roomId = s.roomId := by
  unfold publish
  dsimp only
  repeat' split
  all_goals rfl

theorem publish_pendingInputs (now : Int) (s : GameSession R) :
    (publish now s).1.pendingInputs = s.pendingInputs := by
  unfold publish
  dsimp only
  repeat' split
  all_goals rfl

end Publish

@[simp] theorem step_roomId (env : Env R) (now : Int) (s : GameSession R) :
    (s.step env now).session.roomId = s.roomId := by
  simp only [step, publish_roomId]

/-- The tick empties the queues of the players. -/
theorem step_pending_get (env : Env R) (now : Int) (s : GameSession R) (j : String) :
    (s.step env now).session.pendingInputs.get j =
      if j ∈ s.players.keys then (s.pendingInputs.get j).map fun _ => []
      else s.pendingInputs.get j := by
  simp only [step, publish_pendingInputs]
  exact (visits_spec env now s.players.keys ⟨s.players, s.pendingInputs, [], []⟩
    s.players.unique fun _ hid => hid).2.2.1 j

/-- The tick fills no queue. -/
theorem queueOf_step (env : Env R) (now : Int) (s : GameSession R) {j : String}
    (h : s.queueOf j = []) : (s.step env now).session.queueOf j = [] := by
  rw [queueOf, step_pending_get]
  split
  next => cases s.pendingInputs.get j <;> rfl
  next => exact h

/-- The tick validates queued inputs only. -/
theorem mem_step_validations {env : Env R} {now : Int} {s : GameSession R} {v : Validation R}
    (h : v ∈ (s.step env now).validations) : v.input ∈ s.queueOf v.playerId := by
  rw [step_validations, List.mem_flatMap] at h
  obtain ⟨id, -, hv⟩ := h
  cases hp : s.players.get id with
  | none =>
    rw [hp] at hv
    cases hv
  | some player =>
    simp only [hp, Option.map_some, Option.getD_some, tickValidations, List.mem_map] at hv
    obtain ⟨input, hinput, rfl⟩ := hv
    exact hinput

/-- The fields no operation but the tick writes. -/
structure SameBody (p q : RuntimePlayerState R) : Prop where
  id : q.id = p.id
  username : q.username = p.username
  position : q.position = p.position
  rotation : q.rotation = p.rotation
  velocity : q.velocity = p.velocity
  hp : q.hp = p.hp
  lastProcessedInputSeq : q.lastProcessedInputSeq = p.lastProcessedInputSeq

omit [Field R] [LinearOrder R] [JsMath R] in
theorem SameBody.refl (p : RuntimePlayerState R) : SameBody p p :=
  ⟨rfl, rfl, rfl, rfl, rfl, rfl, rfl⟩

omit [JsMath R] in
theorem expireHeartbeat_body (env : Env R) (now : Int) (p : RuntimePlayerState R) :
    SameBody p (expireHeartbeat env now p) := by
  unfold expireHeartbeat
  split <;> exact ⟨rfl, rfl, rfl, rfl, rfl, rfl, rfl⟩

/-- The heartbeat check does not influence which inputs are accepted. -/
theorem applied_expireHeartbeat (env : Env R) (now : Int) (p : RuntimePlayerState R)
    (queue : List (MovementInput R)) :
    (movement env).applied (expireHeartbeat env now p) queue = (movement env).applied p queue := by
  have hbody := expireHeartbeat_body env now p
  have hsame : (movement env).accept (expireHeartbeat env now p) = (movement env).accept p :=
    funext fun input => validate_accepted_congr input env.maxMoveSpeed hbody.position
      hbody.lastProcessedInputSeq
  rw [Sequenced.applied, Sequenced.applied, hsame]

def Op.IsStep : Op R → Prop
  | .step _ => True
  | _ => False

omit [Field R] [LinearOrder R] [JsMath R] in
theorem withPlayer_body {s : GameSession R} {id : String}
    {assign : RuntimePlayerState R → RuntimePlayerState R} {j : String}
    {q : RuntimePlayerState R} (h : (s.withPlayer id assign).players.get j = some q)
    (hassign : ∀ p, SameBody p (assign p)) : ∃ p, s.players.get j = some p ∧ SameBody p q := by
  rw [withPlayer_get] at h
  split at h
  next =>
    obtain ⟨p, hp, rfl⟩ := Option.map_eq_some_iff.mp h
    exact ⟨p, hp, hassign p⟩
  next => exact ⟨q, h, .refl q⟩

/-- Between ticks a player is either new, freshly made by `addPlayer`, or keeps
its body. -/
theorem apply_player_cases (env : Env R) (s : GameSession R) (op : Op R) (hop : ¬op.IsStep)
    {j : String} {q : RuntimePlayerState R} (h : (s.apply env op).session.players.get j = some q) :
    (∃ p, s.players.get j = some p ∧ SameBody p q) ∨
    (s.players.get j = none ∧ ∃ username spawnIndex now,
      q = createRuntimePlayer j username spawnIndex now) := by
  cases op with
  | addPlayer now id username =>
    simp only [apply, addPlayer_get] at h
    split at h
    next hj =>
      subst hj
      cases hp : s.players.get j with
      | some p =>
        rw [hp] at h
        cases h
        exact Or.inl ⟨p, rfl, ⟨rfl, rfl, rfl, rfl, rfl, rfl, rfl⟩⟩
      | none =>
        rw [hp] at h
        cases h
        exact Or.inr ⟨rfl, _, _, _, rfl⟩
    next => exact Or.inl ⟨q, h, .refl q⟩
  | removePlayer id =>
    simp only [apply, removePlayer_get] at h
    split at h
    next => cases h
    next => exact Or.inl ⟨q, h, .refl q⟩
  | markDisconnected id =>
    exact Or.inl (withPlayer_body h fun _ => ⟨rfl, rfl, rfl, rfl, rfl, rfl, rfl⟩)
  | heartbeat now id =>
    exact Or.inl (withPlayer_body h fun _ => ⟨rfl, rfl, rfl, rfl, rfl, rfl, rfl⟩)
  | updatePing id ping =>
    exact Or.inl (withPlayer_body h fun _ => ⟨rfl, rfl, rfl, rfl, rfl, rfl, rfl⟩)
  | enqueueInput id input =>
    simp only [apply, enqueueInput_players] at h
    exact Or.inl ⟨q, h, .refl q⟩
  | step now => exact absurd trivial hop

/-- A player that is not removed stays. -/
theorem apply_player_stays (env : Env R) (s : GameSession R) (op : Op R) {j : String}
    (hop : op ≠ .removePlayer j) {p : RuntimePlayerState R} (h : s.players.get j = some p) :
    ∃ q, (s.apply env op).session.players.get j = some q := by
  cases op with
  | addPlayer now id username =>
    simp only [apply, addPlayer_get]
    split
    next => exact ⟨_, rfl⟩
    next => exact ⟨p, h⟩
  | removePlayer id =>
    have hj : j ≠ id := fun hj => hop (hj ▸ rfl)
    simp only [apply, removePlayer_get, if_neg hj]
    exact ⟨p, h⟩
  | markDisconnected id =>
    simp only [apply, markDisconnected, withPlayer_get, h]
    split <;> exact ⟨_, rfl⟩
  | heartbeat now id =>
    simp only [apply, heartbeat, withPlayer_get, h]
    split <;> exact ⟨_, rfl⟩
  | updatePing id ping =>
    simp only [apply, updatePing, withPlayer_get, h]
    split <;> exact ⟨_, rfl⟩
  | enqueueInput id input =>
    simp only [apply, enqueueInput_players]
    exact ⟨p, h⟩
  | step now =>
    simp only [apply, step_players_get, h]
    exact ⟨_, rfl⟩

/-- A session with every validation its ticks have made so far. -/
structure Observed (R : Type*) where
  session : GameSession R
  validations : List (Validation R)

def observer (env : Env R) : Machine (Observed R) (Op R) where
  step o op :=
    let result := o.session.apply env op
    some ⟨result.session, o.validations ++ result.validations⟩

def startObserved (roomId : String) : Observed R := ⟨GameSession.create roomId, []⟩

end RealtimeGameServer.Source.GameSession
