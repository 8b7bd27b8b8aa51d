import Mathlib.Tactic.NormNum.RealSqrt
import RealtimeGameServer.Source.Protocol
import RealtimeGameServer.Source.RealMotion
import RealtimeGameServer.Source.SessionStep

/-!
# How far a player can move

Two results over whole runs and exact reals. Every reachable player is inside
the world with a velocity within the limit, and a validation moves a player by
at most its velocity times the claimed `dt` (`movement_bounded`). Of the inputs that a
tick accepts from a player only the last one moves it, so over `k` ticks a player moves at
most what a quarter of a second for each tick permits (`displacement_le_ticks`). Nothing
relates `dt` to the tick rate, and one schema-valid input is enough to exceed what the
elapsed server time permits.
-/
namespace RealtimeGameServer.Guarantees.Movement
open Lib Lib.Euclid3 Source Source.GameSession

/-- What every reachable player satisfies. -/
structure PlayerBounded (env : Env ℝ) (player : RuntimePlayerState ℝ) : Prop where
  position : InWorld player.position
  velocity : magnitude player.velocity ≤ env.maxMoveSpeed + 0.01

/-- An accepted input moves the stored position by at most the speed limit times
`dt` from the position it was validated against; a rejected one changes nothing. -/
structure ValidationBounded (env : Env ℝ) (v : Validation ℝ) : Prop where
  accepted : v.result.accepted = true →
    distance3 v.result.state.position v.against.position ≤ (env.maxMoveSpeed + 0.01) * v.input.dt
  rejected : v.result.accepted = false → v.result.state = v.against

/-- The property of an observed session: all its players, all validations made
so far, and any further validation against one of its players. -/
structure MovementBounded (env : Env ℝ) (o : Observed ℝ) : Prop where
  players : ∀ id player, o.session.players.get id = some player → PlayerBounded env player
  validations : ∀ v ∈ o.validations, ValidationBounded env v
  next : ∀ id player input, o.session.players.get id = some player →
    ValidationBounded env
      ⟨id, player, input, validateAndApplyMovement player input env.maxMoveSpeed⟩

theorem PlayerBounded.spawn (env : Env ℝ) (id username : String) (spawnIndex : Nat) (now : Int) :
    PlayerBounded env (createRuntimePlayer id username spawnIndex now) where
  position := spawn_inWorld id username spawnIndex now
  velocity := by
    have hpos := env.maxMoveSpeed_pos
    simp only [createRuntimePlayer, createVec3, magnitude_eq, norm3_zero]
    linarith

theorem PlayerBounded.body {env : Env ℝ} {p q : RuntimePlayerState ℝ} (h : PlayerBounded env p)
    (hbody : SameBody p q) : PlayerBounded env q where
  position := by
    rw [hbody.position]
    exact h.position
  velocity := by
    rw [hbody.velocity]
    exact h.velocity

theorem PlayerBounded.advance {env : Env ℝ} (player : RuntimePlayerState ℝ)
    {input : MovementInput ℝ} (hadm : Admissible env.maxMoveSpeed input) :
    PlayerBounded env (advance env.maxMoveSpeed player input) where
  position := clampVec3_inWorld _
  velocity := hadm.speed_le

theorem PlayerBounded.tick {env : Env ℝ} {player : RuntimePlayerState ℝ}
    (h : PlayerBounded env player) (now : Int) (queue : List (MovementInput ℝ)) :
    PlayerBounded env (tickPlayer env now player queue) := by
  rw [tickPlayer, Sequenced.stale_eq]
  cases hlast : ((movement env).applied (expireHeartbeat env now player) queue).getLast? with
  | none => exact h.body (expireHeartbeat_body env now player)
  | some input =>
    have haccept := (List.mem_filter.mp (List.mem_of_getLast? hlast)).2
    exact PlayerBounded.advance _ (validate_accepted haccept).2.1

theorem PlayerBounded.validation {env : Env ℝ} {player : RuntimePlayerState ℝ}
    (h : PlayerBounded env player) (id : String) (input : MovementInput ℝ) :
    ValidationBounded env
      ⟨id, player, input, validateAndApplyMovement player input env.maxMoveSpeed⟩ where
  accepted := by
    intro haccept
    obtain ⟨_, hadm, hstate⟩ := validate_accepted haccept
    rw [hstate]
    calc distance3 (Source.advance env.maxMoveSpeed player input).position player.position
        ≤ magnitude (nextVelocity env.maxMoveSpeed input.move) * input.dt :=
          distance3_advance_le h.position hadm.dt_pos.le
      _ ≤ (env.maxMoveSpeed + 0.01) * input.dt :=
          mul_le_mul_of_nonneg_right hadm.speed_le hadm.dt_pos.le
  rejected := validate_rejected

/-- One operation keeps every player bounded. -/
theorem players_bounded_apply {env : Env ℝ} {s : GameSession ℝ}
    (h : ∀ id player, s.players.get id = some player → PlayerBounded env player) (op : Op ℝ) :
    ∀ id player, (s.apply env op).session.players.get id = some player →
      PlayerBounded env player := by
  intro id q hq
  by_cases hop : op.IsStep
  · cases op with
    | step now =>
      simp only [apply, step_players_get] at hq
      obtain ⟨p, hp, rfl⟩ := Option.map_eq_some_iff.mp hq
      exact (h id p hp).tick now _
    | _ => exact hop.elim
  · rcases apply_player_cases env s op hop hq with ⟨p, hp, hbody⟩ | ⟨_, username, index, now, rfl⟩
    · exact (h id p hp).body hbody
    · exact PlayerBounded.spawn env id username index now

/-- One operation makes bounded validations only. -/
theorem validations_bounded_apply {env : Env ℝ} {s : GameSession ℝ}
    (h : ∀ id player, s.players.get id = some player → PlayerBounded env player) (op : Op ℝ) :
    ∀ v ∈ (s.apply env op).validations, ValidationBounded env v := by
  intro v hv
  cases op with
  | step now =>
    simp only [apply, step_validations, List.mem_flatMap] at hv
    obtain ⟨id, -, hv⟩ := hv
    cases hp : s.players.get id with
    | none => simp [hp] at hv
    | some player =>
      simp only [hp, Option.map_some, Option.getD_some, tickValidations, List.mem_map] at hv
      obtain ⟨input, -, rfl⟩ := hv
      exact ((h id player hp).body (expireHeartbeat_body env now player)).validation id input
  | _ => cases hv

/-- In every state of every run each player is inside the world and within the
speed limit, accepted inputs move it by at most the limit times `dt`, and
rejected ones leave it unchanged. -/
theorem movement_bounded (env : Env ℝ) (roomId : String) (ops : List (Op ℝ)) :
    (observer env).Along (MovementBounded env) (startObserved roomId) ops := by
  have hrun : (observer env).Along (fun o =>
      (∀ id player, o.session.players.get id = some player → PlayerBounded env player) ∧
      ∀ v ∈ o.validations, ValidationBounded env v) (startObserved roomId) ops := by
    apply Machine.along_of_invariant
    · intro o op o' h hstep
      cases hstep
      obtain ⟨hplayers, hvalidations⟩ := h
      constructor
      · exact players_bounded_apply hplayers op
      · intro v hv
        rcases List.mem_append.mp hv with hold | hnew
        · exact hvalidations v hold
        · exact validations_bounded_apply hplayers op v hnew
    · constructor
      · intro id player hp
        cases hp
      · intro v hv
        cases hv
  apply hrun.mono
  intro o h
  obtain ⟨hplayers, hvalidations⟩ := h
  refine ⟨hplayers, hvalidations, ?_⟩
  intro id player input hp
  exact (hplayers id player hp).validation id input

/-- The inputs `step` has applied to a player, oldest first. -/
def appliedInputs (playerId : String) (validations : List (Validation ℝ)) :
    List (MovementInput ℝ) :=
  ((validations.filter fun v => v.playerId = playerId).filter
    fun v => v.result.accepted).map fun v => v.input

/-- The `dt` of the input that moves the player, for each tick of a run that has one: of the
inputs the tick accepts from the player it is the last. -/
noncomputable def movingDts (env : Env ℝ) (playerId : String) :
    GameSession ℝ → List (Op ℝ) → List ℝ
  | _, [] => []
  | s, op :: rest =>
    let result := s.apply env op
    ((appliedInputs playerId result.validations).getLast?.map (·.dt)).toList ++
      movingDts env playerId result.session rest

/-- How often a run calls `step`. -/
def ticks : List (Op ℝ) → Nat
  | [] => 0
  | .step _ :: rest => ticks rest + 1
  | _ :: rest => ticks rest

/-- What `k` ticks permit a player that moved from one position to another. -/
structure WithinTicks (env : Env ℝ) (before after : Vec3 ℝ) (dts : List ℝ) (k : Nat) : Prop where
  each : ∀ dt ∈ dts, 0 < dt ∧ dt ≤ 0.25
  onePerTick : dts.length ≤ k
  moved : distance3 after before ≤ 1.05 * env.maxMoveSpeed * dts.sum
  displacement : distance3 after before ≤ 1.05 * env.maxMoveSpeed * 0.25 * k

theorem appliedInputs_step (env : Env ℝ) (now : Int) {s : GameSession ℝ} {playerId : String}
    {player : RuntimePlayerState ℝ} (present : s.players.get playerId = some player) :
    appliedInputs playerId (s.step env now).validations =
      (movement env).applied (expireHeartbeat env now player) (s.queueOf playerId) := by
  rw [appliedInputs, step_validations_of, present]
  simp only [Option.map_some, Option.getD_some, tickValidations, List.filter_map, List.map_map]
  exact List.map_id _

/-- One tick moves a player by at most what the last input it accepts claims. -/
theorem tick_displacement {env : Env ℝ} {player : RuntimePlayerState ℝ}
    (h : PlayerBounded env player) (now : Int) (queue : List (MovementInput ℝ)) :
    let dts := (((movement env).applied (expireHeartbeat env now player) queue).getLast?.map
      (·.dt)).toList
    (∀ dt ∈ dts, 0 < dt ∧ dt ≤ 0.25) ∧
      distance3 (tickPlayer env now player queue).position player.position ≤
        1.05 * env.maxMoveSpeed * dts.sum := by
  have hbody := expireHeartbeat_body env now player
  rw [tickPlayer, Sequenced.stale_eq]
  cases hlast : ((movement env).applied (expireHeartbeat env now player) queue).getLast? with
  | none => simp [hbody.position, distance3_self]
  | some input =>
    have hadm := (validate_accepted (List.mem_filter.mp (List.mem_of_getLast? hlast)).2).2.1
    have hdt := hadm.dt_pos.le
    simp only [Option.map_some, Option.toList_some, List.mem_singleton, forall_eq,
      Option.getD_some, List.sum_singleton, ← hbody.position]
    refine ⟨⟨hadm.dt_pos, hadm.dt_le⟩, ?_⟩
    calc distance3 (advance env.maxMoveSpeed (expireHeartbeat env now player) input).position
          (expireHeartbeat env now player).position
        ≤ magnitude (nextVelocity env.maxMoveSpeed input.move) * input.dt :=
          distance3_advance_le (h.body hbody).position hdt
      _ ≤ env.maxMoveSpeed * 1.05 * input.dt :=
          mul_le_mul_of_nonneg_right (magnitude_nextVelocity_le env.maxMoveSpeed_pos hadm.move_le)
            hdt
      _ = 1.05 * env.maxMoveSpeed * input.dt := by ring

/-- One operation moves a player only if it is a tick, and by at most what one input claims. -/
theorem apply_displacement {env : Env ℝ} {s : GameSession ℝ} {playerId : String}
    {player after : RuntimePlayerState ℝ} (h : PlayerBounded env player)
    (present : s.players.get playerId = some player) (op : Op ℝ)
    (hafter : (s.apply env op).session.players.get playerId = some after) :
    let dts := ((appliedInputs playerId (s.apply env op).validations).getLast?.map (·.dt)).toList
    (∀ dt ∈ dts, 0 < dt ∧ dt ≤ 0.25) ∧ dts.length ≤ ticks [op] ∧
      distance3 after.position player.position ≤ 1.05 * env.maxMoveSpeed * dts.sum := by
  intro dts
  by_cases hop : op.IsStep
  · cases op with
    | step now =>
      have hdts : dts = (((movement env).applied (expireHeartbeat env now player)
          (s.queueOf playerId)).getLast?.map (·.dt)).toList :=
        congrArg (fun inputs => (inputs.getLast?.map (·.dt)).toList)
          (appliedInputs_step env now present)
      obtain ⟨heach, hmove⟩ := tick_displacement h now (s.queueOf playerId)
      simp only [apply, step_players_get, present, Option.map_some, Option.some.injEq] at hafter
      subst hafter
      rw [hdts]
      exact ⟨heach, Option.length_toList_le, hmove⟩
    | _ => exact hop.elim
  · have hquiet : dts = [] := by
      cases op <;> first | rfl | exact absurd trivial hop
    rw [hquiet]
    rcases apply_player_cases env s op hop hafter with ⟨p, hp, hbody⟩ | ⟨hnone, _⟩
    · cases present.symm.trans hp
      simp [hbody.position, distance3_self]
    · cases present.symm.trans hnone

theorem ticks_cons (op : Op ℝ) (rest : List (Op ℝ)) :
    ticks (op :: rest) = ticks [op] + ticks rest := by
  cases op <;> simp [ticks, Nat.add_comm]

/-- The displacement over a run, from any session whose players are bounded. -/
theorem run_displacement {env : Env ℝ} {playerId : String} (ops : List (Op ℝ))
    (stays : ∀ op ∈ ops, op ≠ .removePlayer playerId) {s : GameSession ℝ}
    (h : ∀ id player, s.players.get id = some player → PlayerBounded env player)
    {player : RuntimePlayerState ℝ} (present : s.players.get playerId = some player) :
    ∃ t after, (machine env).exec s ops = some t ∧ t.players.get playerId = some after ∧
      (∀ dt ∈ movingDts env playerId s ops, 0 < dt ∧ dt ≤ 0.25) ∧
      (movingDts env playerId s ops).length ≤ ticks ops ∧
      distance3 after.position player.position ≤
        1.05 * env.maxMoveSpeed * (movingDts env playerId s ops).sum := by
  induction ops generalizing s player with
  | nil =>
    exact ⟨s, player, rfl, present, by simp [movingDts], Nat.le_refl 0,
      by simp [movingDts, distance3_self]⟩
  | cons op rest ih =>
    obtain ⟨mid, hmid⟩ := apply_player_stays env s op (stays op List.mem_cons_self) present
    obtain ⟨hfirst, hone, hmove⟩ := apply_displacement (h playerId player present) present op hmid
    obtain ⟨t, after, hexec, hafter, hrest, hcount, hmoves⟩ :=
      ih (fun o ho => stays o (List.mem_cons_of_mem _ ho)) (players_bounded_apply h op) hmid
    have hrun : (machine env).exec s (op :: rest) = some t :=
      Machine.exec_cons.mpr ⟨_, rfl, hexec⟩
    refine ⟨t, after, hrun, hafter, ?_, ?_, ?_⟩
    · intro dt hdt
      rcases List.mem_append.mp hdt with hnow | hlater
      · exact hfirst dt hnow
      · exact hrest dt hlater
    · rw [movingDts, List.length_append, ticks_cons]
      exact Nat.add_le_add hone hcount
    · simp only [movingDts, List.sum_append, mul_add]
      have htriangle := distance3_triangle after.position mid.position player.position
      linarith

/-- From any reachable session, `k` calls of `step` (with any other operations among them that
do not remove the player) move a player by at most 105% of the speed limit for a quarter of a
second each: the last input that a tick accepts from it is the only one that moves it. -/
theorem displacement_le_ticks (env : Env ℝ) (roomId playerId : String) {s : GameSession ℝ}
    (reachable : (machine env).Reachable (GameSession.create roomId) s) (ops : List (Op ℝ))
    (stays : ∀ op ∈ ops, op ≠ .removePlayer playerId) {player : RuntimePlayerState ℝ}
    (present : s.players.get playerId = some player) :
    ∃ t after, (machine env).exec s ops = some t ∧ t.players.get playerId = some after ∧
      WithinTicks env player.position after.position (movingDts env playerId s ops)
        (ticks ops) := by
  have hbounded : ∀ id player, s.players.get id = some player → PlayerBounded env player := by
    apply reachable.invariant (I := fun s => ∀ id player, s.players.get id = some player →
      PlayerBounded env player)
    · intro s op t h hstep
      cases hstep
      exact players_bounded_apply h op
    · intro id player hp
      cases hp
  obtain ⟨t, after, hexec, hafter, heach, hcount, hmove⟩ :=
    run_displacement ops stays hbounded present
  refine ⟨t, after, hexec, hafter, heach, hcount, hmove, ?_⟩
  have hspeed : 0 ≤ 1.05 * env.maxMoveSpeed := by linarith [env.maxMoveSpeed_pos]
  have hclaimed : (movingDts env playerId s ops).sum ≤ ticks ops * 0.25 :=
    calc
      (movingDts env playerId s ops).sum ≤ (movingDts env playerId s ops).length * 0.25 := by
        rw [← nsmul_eq_mul]
        exact List.sum_le_card_nsmul _ _ fun dt hdt => (heach dt hdt).2
      _ ≤ ticks ops * 0.25 := mul_le_mul_of_nonneg_right (by exact_mod_cast hcount) (by norm_num)
  calc distance3 after.position player.position
      ≤ 1.05 * env.maxMoveSpeed * (movingDts env playerId s ops).sum := hmove
    _ ≤ 1.05 * env.maxMoveSpeed * (ticks ops * 0.25) := mul_le_mul_of_nonneg_left hclaimed hspeed
    _ = 1.05 * env.maxMoveSpeed * 0.25 * ticks ops := by ring

/-- A full-speed intent along x that claims a quarter of a second. -/
noncomputable def sprint : MovementInput ℝ where
  seq := 1
  dt := 0.25
  move := ⟨1, 0, 0⟩
  look := ⟨0, 0, 0⟩

noncomputable def sprintVec (x : ℝ) : Json ℝ :=
  .obj fun key => if key = "x" then some (.num x)
    else if key = "y" ∨ key = "z" then some (.num 0) else none

/-- The frame that carries `sprint`. -/
noncomputable def sprintFrame : Json ℝ :=
  .obj fun key =>
    if key = "type" then some (.str "input")
    else if key = "seq" then some (.num 1)
    else if key = "dt" then some (.num 0.25)
    else if key = "move" then some (sprintVec 1)
    else if key = "look" then some (sprintVec 0) else none

theorem sprintFrame_parses : clientMessageSchema sprintFrame = some (.input sprint) := by
  have hint : JsMath.isInteger (1 : ℝ) = true := by
    simp only [JsMath.isInteger, decide_eq_true_eq]
    exact ⟨1, by norm_num⟩
  have hchecks : inputChecks sprint = true := by
    norm_num [inputChecks, sprint, hint, unitRange]
  have hvec : ∀ x : ℝ, parseVec (sprintVec x) = some ⟨x, 0, 0⟩ := by
    intro x
    simp [parseVec, sprintVec, Json.field, Json.asNum]
  simp [clientMessageSchema, sprintFrame, Json.field, Json.asStr, Json.asNum, parseInput, hvec,
    ← sprint.eq_1, hchecks]

/-- A session whose one player has sent `sprint`. -/
noncomputable def beforeSprint : GameSession ℝ :=
  (((GameSession.create "room-1").addPlayer 0 "p1" "nova").enqueueInput "p1" sprint).1

theorem beforeSprint_reachable :
    (machine defaultEnv).Reachable (GameSession.create "room-1") beforeSprint :=
  ⟨[.addPlayer 0 "p1" "nova", .enqueueInput "p1" sprint], rfl⟩

theorem beforeSprint_get :
    beforeSprint.players.get "p1" = some (createRuntimePlayer "p1" "nova" 0 0) := by
  simp [beforeSprint, addPlayer_get, GameSession.create]

theorem beforeSprint_queue : beforeSprint.queueOf "p1" = [sprint] := by
  simp [beforeSprint, queueOf, enqueueInput, addPlayer, GameSession.create, maxPendingInputs]

theorem sprint_accepted : (movement defaultEnv).accept
    (createRuntimePlayer "p1" "nova" 0 0) sprint = true := by
  have hlen : magnitude sprint.move = 1 := by simp [magnitude_eq, sprint, norm3]
  refine (accepted_iff (defaultEnv (R := ℝ)).maxMoveSpeed_pos _ _).mpr ⟨?_, ?_, ?_, ?_, ?_⟩
  · norm_num [sprint, createRuntimePlayer]
  · norm_num [sprint]
  · norm_num [sprint]
  · rw [hlen]
    norm_num
  · rw [magnitude_nextVelocity defaultEnv.maxMoveSpeed_pos, hlen]
    norm_num

theorem sprint_applied (now : Int) : (movement defaultEnv).applied
    (expireHeartbeat defaultEnv now (createRuntimePlayer "p1" "nova" 0 0)) [sprint] =
      [sprint] := by
  rw [applied_expireHeartbeat]
  exact Sequenced.applied_cons_of_accept sprint_accepted []

/-- At the default limit of 12 units a second and 20 ticks a second, one tick
carries the sender of one schema-valid input 3 units; the time of one tick
permits 0.69. -/
theorem one_input_outruns_its_tick :
    clientMessageSchema sprintFrame = some (.input sprint) ∧
    (machine defaultEnv).Reachable (GameSession.create "room-1") beforeSprint ∧
    ∃ before after, beforeSprint.players.get "p1" = some before ∧
      (beforeSprint.step defaultEnv 50).session.players.get "p1" = some after ∧
      ¬distance3 after.position before.position ≤
        1.15 * (defaultEnv (R := ℝ)).maxMoveSpeed * (1 : ℕ) / (defaultEnv (R := ℝ)).gameTickRate := by
  have hafter : (beforeSprint.step defaultEnv 50).session.players.get "p1" =
      some (tickPlayer defaultEnv 50 (createRuntimePlayer "p1" "nova" 0 0) [sprint]) := by
    rw [step_players_get, beforeSprint_get, beforeSprint_queue]
    rfl
  refine ⟨sprintFrame_parses, beforeSprint_reachable, _, _, beforeSprint_get, hafter, ?_⟩
  have hbody := expireHeartbeat_body (R := ℝ) defaultEnv 50 (createRuntimePlayer "p1" "nova" 0 0)
  rw [tickPlayer, Sequenced.stale_eq, sprint_applied, not_le]
  simp only [List.getLast?_singleton, Option.map_some, Option.getD_some, movement, advance,
    hbody.position]
  norm_num [distance3_eq, norm3, clampVec3, proposedPosition, nextVelocity, worldBounds, sprint,
    createRuntimePlayer, createVec3, magnitude_eq, defaultEnv, JsMath.cos, JsMath.sin]

/-- Two ticks, with a second and a third input queued for them: 6.3 units at most. -/
theorem sprints_within_two_ticks :
    ∃ t after, (machine defaultEnv).exec beforeSprint
        [.enqueueInput "p1" { sprint with seq := 2 }, .step 50,
          .enqueueInput "p1" { sprint with seq := 3 }, .step 100] = some t ∧
      t.players.get "p1" = some after ∧
      WithinTicks defaultEnv (createRuntimePlayer (R := ℝ) "p1" "nova" 0 0).position
        after.position (movingDts defaultEnv "p1" beforeSprint
          [.enqueueInput "p1" { sprint with seq := 2 }, .step 50,
            .enqueueInput "p1" { sprint with seq := 3 }, .step 100]) 2 := by
  refine displacement_le_ticks defaultEnv "room-1" "p1" beforeSprint_reachable _ ?_
    beforeSprint_get
  simp

end RealtimeGameServer.Guarantees.Movement
