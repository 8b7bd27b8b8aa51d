import RealtimeGameServer.Source.RealMotion
import RealtimeGameServer.Source.SessionStep

/-!
# Anti-replay over whole runs

`validateAndApplyMovement` refuses a sequence number that is not above the
counter of the state it is given. The tick gives it the state bound when the
loop reached the player, for every input of the queue, so a number above the
counter at the start of the tick is accepted in any order within that tick.
The history of applied numbers is therefore strictly increasing exactly in the
runs whose ticks find their acceptable inputs queued in increasing order.
-/
namespace RealtimeGameServer.Guarantees.AntiReplay
open Lib Source Source.GameSession

variable {R : Type*} [Field R] [LinearOrder R] [JsMath R]

/-- The sequence numbers of the inputs `step` has applied to a player, oldest
first. -/
def appliedSeqs (playerId : String) (validations : List (Validation R)) : List R :=
  ((validations.filter fun v => v.playerId = playerId).filter
    fun v => v.result.accepted).map fun v => v.input.seq

/-- No number applied twice or out of order, none above the counter. -/
structure NoReplay (playerId : String) (o : Observed R) : Prop where
  increasing : (appliedSeqs playerId o.validations).Pairwise (· < ·)
  counter : ∀ player, o.session.players.get playerId = some player →
    ∀ n ∈ appliedSeqs playerId o.validations, n ≤ player.lastProcessedInputSeq

/-- The inputs of the player's queue that pass the checks against its current
state are queued with strictly increasing sequence numbers. -/
def QueuedInOrder (env : Env R) (playerId : String) (o : Observed R) : Op R → Prop
  | .step _ => ∀ player, o.session.players.get playerId = some player →
      ((o.session.queueOf playerId).filter fun input =>
        (validateAndApplyMovement player input env.maxMoveSpeed).accepted).Pairwise
          fun i j => i.seq < j.seq
  | _ => True

/-- The invariant: the history of a present player is that of a sequenced
consumer, and a player not yet added has none. -/
def History (env : Env R) (playerId : String) (o : Observed R) : Prop :=
  match o.session.players.get playerId with
  | none => appliedSeqs playerId o.validations = []
  | some player =>
    (movement env).Replayed (appliedSeqs playerId o.validations) player

omit [Field R] [LinearOrder R] [JsMath R] in
theorem appliedSeqs_append (playerId : String) (xs ys : List (Validation R)) :
    appliedSeqs playerId (xs ++ ys) = appliedSeqs playerId xs ++ appliedSeqs playerId ys := by
  simp only [appliedSeqs, List.filter_append, List.map_append]

/-- The numbers one tick applies are those of the queued inputs accepted by the
state the loop bound. -/
theorem appliedSeqs_tick (env : Env R) (now : Int) (s : GameSession R) (playerId : String) :
    appliedSeqs playerId (s.step env now).validations =
      match s.players.get playerId with
      | none => []
      | some player => ((movement env).applied (expireHeartbeat env now player)
          (s.queueOf playerId)).map (movement env).seq := by
  rw [appliedSeqs, step_validations_of]
  cases s.players.get playerId with
  | none => rfl
  | some player =>
    simp only [Option.map_some, Option.getD_some, tickValidations, List.filter_map, List.map_map]
    rfl

theorem inOrder_expireHeartbeat (env : Env R) (now : Int) (player : RuntimePlayerState R)
    (queue : List (MovementInput R)) :
    (movement env).InOrder (expireHeartbeat env now player) queue ↔
      (movement env).InOrder player queue := by
  rw [Sequenced.InOrder, Sequenced.InOrder, applied_expireHeartbeat]

theorem History.noReplay {env : Env R} {playerId : String} {o : Observed R}
    (h : History env playerId o) : NoReplay playerId o := by
  unfold History at h
  split at h
  next hnone =>
    constructor
    · simp [h]
    · intro player hp
      rw [hnone] at hp
      cases hp
  next player hsome =>
    constructor
    · exact h.increasing
    · intro q hq
      cases hsome.symm.trans hq
      exact h.bounded

/-- Operations other than the tick validate nothing and keep the counter. -/
theorem History.between {env : Env R} {playerId : String} {o : Observed R} {op : Op R}
    (h : History env playerId o) (hop : ¬op.IsStep) (hstay : op ≠ .removePlayer playerId) :
    History env playerId
      ⟨(o.session.apply env op).session, o.validations ++ (o.session.apply env op).validations⟩ := by
  have hquiet : (o.session.apply env op).validations = [] := by
    cases op <;> first | rfl | exact absurd trivial hop
  rw [hquiet, List.append_nil]
  unfold History at h ⊢
  cases hq : (o.session.apply env op).session.players.get playerId with
  | none =>
    cases hp : o.session.players.get playerId with
    | none => simpa only [hp] using h
    | some player =>
      obtain ⟨q, hstays⟩ := apply_player_stays env o.session op hstay hp
      rw [hq] at hstays
      cases hstays
  | some q =>
    rcases apply_player_cases env o.session op hop hq with ⟨p, hp, hbody⟩ | ⟨hp, _⟩
    · simp only [hp] at h
      exact h.of_counter_eq hbody.lastProcessedInputSeq
    · simp only [hp] at h
      rw [h]
      exact Sequenced.Replayed.nil q

theorem History.tick {env : Env R} {playerId : String} {o : Observed R} {now : Int}
    (h : History env playerId o) (hguard : QueuedInOrder env playerId o (.step now)) :
    History env playerId
      ⟨(o.session.step env now).session, o.validations ++ (o.session.step env now).validations⟩ := by
  unfold History at h ⊢
  simp only [step_players_get, appliedSeqs_append, appliedSeqs_tick]
  cases hp : o.session.players.get playerId with
  | none => simpa only [hp, Option.map_none, List.append_nil] using h
  | some player =>
    simp only [hp, Option.map_some] at h ⊢
    have hstate : (movement env).Replayed (appliedSeqs playerId o.validations)
        (expireHeartbeat env now player) :=
      h.of_counter_eq (expireHeartbeat_body env now player).lastProcessedInputSeq
    exact hstate.batch ((inOrder_expireHeartbeat env now player _).mpr (hguard player hp))

/-- Along a run that does not remove the player, the applied numbers are
strictly increasing and the counter never falls below one of them if and only
if each tick finds the player's acceptable inputs queued in increasing order. -/
theorem no_replay_iff_queued_in_order (env : Env R) (roomId playerId : String) (ops : List (Op R))
    (stays : ∀ op ∈ ops, op ≠ .removePlayer playerId) :
    (observer env).Along (NoReplay playerId) (startObserved roomId) ops ↔
      (observer env).StepsMeet (QueuedInOrder env playerId) (startObserved roomId) ops := by
  refine Machine.along_iff_stepsMeet (I := History env playerId) (fun _ h => h.noReplay)
    ?_ ?_ stays rfl
  · intro o op o' h hstay hstep hguard
    cases hstep
    cases op with
    | step now => exact h.tick hguard
    | _ => exact h.between id hstay
  · intro o op o' h _ hstep hreplay
    cases hstep
    cases op with
    | step now =>
      intro player hp
      have hinc := hreplay.increasing
      simp only [apply, appliedSeqs_append, appliedSeqs_tick, hp] at hinc
      exact (inOrder_expireHeartbeat env now player _).mp (Sequenced.inOrder_of_increasing hinc)
    | _ => trivial

/-- An intent to stand still, numbered `seq`. -/
noncomputable def stillInput (seq : ℝ) : MovementInput ℝ where
  seq
  dt := 0.05
  move := ⟨0, 0, 0⟩
  look := ⟨0, 0, 0⟩

theorem stillInput_accepted (player : RuntimePlayerState ℝ) {seq : ℝ}
    (h : player.lastProcessedInputSeq < seq) :
    (movement defaultEnv).accept player (stillInput seq) = true := by
  refine (accepted_iff (defaultEnv (R := ℝ)).maxMoveSpeed_pos player _).mpr ⟨h, ?_⟩
  refine admissible_still defaultEnv.maxMoveSpeed_pos ?_ ?_ rfl
  all_goals norm_num [stillInput]

/-- The player joins, sends two inputs and the session ticks. -/
noncomputable def twoInputs (first second : ℝ) : List (Op ℝ) :=
  [.addPlayer 0 "p1" "nova", .enqueueInput "p1" (stillInput first),
    .enqueueInput "p1" (stillInput second), .step 50]

theorem twoInputs_stays (first second : ℝ) :
    ∀ op ∈ twoInputs first second, op ≠ .removePlayer "p1" := by
  intro op hop
  simp only [twoInputs, List.mem_cons, List.not_mem_nil, or_false] at hop
  rcases hop with rfl | rfl | rfl | rfl <;> simp

/-- The session when the tick of `twoInputs` begins. -/
noncomputable def beforeTick (first second : ℝ) : GameSession ℝ :=
  (((((GameSession.create "room-1").addPlayer 0 "p1" "nova").enqueueInput "p1"
    (stillInput first)).1).enqueueInput "p1" (stillInput second)).1

theorem beforeTick_get (first second : ℝ) :
    (beforeTick first second).players.get "p1" =
      some (createRuntimePlayer "p1" "nova" 0 0) := by
  simp [beforeTick, addPlayer_get, GameSession.create]

theorem beforeTick_queue (first second : ℝ) :
    (beforeTick first second).queueOf "p1" = [stillInput first, stillInput second] := by
  simp [beforeTick, queueOf, enqueueInput, addPlayer, GameSession.create, maxPendingInputs]

/-- Numbers 2 and 1 queued in this order are both applied by one tick, and the
counter ends at 1. -/
theorem replay_within_a_tick :
    (∀ op ∈ twoInputs 2 1, op ≠ .removePlayer "p1") ∧
    ¬(observer defaultEnv).Along (NoReplay "p1") (startObserved "room-1") (twoInputs 2 1) := by
  refine ⟨twoInputs_stays 2 1, ?_⟩
  intro halong
  have hlast := halong.last (t := ⟨((beforeTick 2 1).step defaultEnv 50).session,
    ((beforeTick 2 1).step defaultEnv 50).validations⟩) rfl
  have hinc := hlast.increasing
  have hzero : (createRuntimePlayer (R := ℝ) "p1" "nova" 0 0).lastProcessedInputSeq = 0 := rfl
  have haccept : ∀ n : ℝ, 0 < n → (movement defaultEnv).accept
      (createRuntimePlayer "p1" "nova" 0 0) (stillInput n) = true :=
    fun n hn => stillInput_accepted _ (hzero.trans_lt hn)
  rw [appliedSeqs_tick, beforeTick_get] at hinc
  dsimp only at hinc
  rw [applied_expireHeartbeat, beforeTick_queue] at hinc
  simp only [Sequenced.applied, List.filter_cons, haccept 2 two_pos,
    haccept 1 one_pos, if_true, List.filter_nil, List.map_cons, List.map_nil] at hinc
  norm_num [movement, stillInput] at hinc

/-- Queued as 1 and 2 the same inputs are applied in order. -/
theorem no_replay_of_increasing_queue :
    (observer defaultEnv).Along (NoReplay "p1") (startObserved "room-1") (twoInputs 1 2) := by
  refine (no_replay_iff_queued_in_order defaultEnv "room-1" "p1" (twoInputs 1 2)
    (twoInputs_stays 1 2)).mpr ?_
  rintro _ ⟨⟩
  refine ⟨trivial, ?_⟩
  rintro _ ⟨⟩
  refine ⟨trivial, ?_⟩
  rintro _ ⟨⟩
  refine ⟨trivial, ?_⟩
  rintro _ ⟨⟩
  refine ⟨?_, trivial⟩
  intro player _
  refine List.Pairwise.filter _ ?_
  change ((beforeTick 1 2).queueOf "p1").Pairwise _
  rw [beforeTick_queue]
  simp [stillInput]

end RealtimeGameServer.Guarantees.AntiReplay
