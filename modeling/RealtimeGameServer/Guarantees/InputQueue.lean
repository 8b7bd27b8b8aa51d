import Mathlib.Data.List.DropRight
import RealtimeGameServer.Source.RealMotion
import RealtimeGameServer.Source.SessionStep

/-!
# Acknowledged inputs and the tick

`enqueueInput` answers `true`, which the gateway sends on as `input_ack`, also when the
queue is full and its oldest input makes room. Of the inputs of a player acknowledged
since the last step, the next step passes the last forty to `validateAndApplyMovement`,
each once and in the order of their acknowledgement, and no others; so none is lost
unless forty more are acknowledged after it before the step.
-/
namespace RealtimeGameServer.Guarantees.InputQueue
open Lib Source Source.GameSession

variable {R : Type*}

/-- A session with the inputs of one player that have been acknowledged since the last
step, and since the player was last removed. -/
structure Acknowledged (R : Type*) where
  session : GameSession R
  waiting : List (MovementInput R)

def startAcknowledged (roomId : String) : Acknowledged R := ⟨GameSession.create roomId, []⟩

/-- The last inputs of a full queue make room for one more. -/
theorem pushInput_rtake (waiting : List (MovementInput R)) (input : MovementInput R) :
    pushInput (waiting.rtake maxPendingInputs) input =
      (waiting ++ [input]).rtake maxPendingInputs := by
  have hconcat : (waiting ++ [input]).rtake maxPendingInputs = waiting.rtake 39 ++ [input] :=
    List.rtake_concat_succ waiting 39 input
  have hlength : (waiting.rtake maxPendingInputs).length = min waiting.length maxPendingInputs := by
    rw [List.rtake, List.length_drop]
    omega
  rw [hconcat, pushInput, hlength]
  congr 1
  split
  next hfull =>
    rw [List.rtake, List.rtake, List.tail_drop]
    congr 1
    unfold maxPendingInputs at *
    omega
  next hroom =>
    rw [List.rtake, List.rtake]
    congr 1
    unfold maxPendingInputs at *
    omega

variable [Field R] [LinearOrder R] [JsMath R]

/-- What waits for the next step after an operation. -/
def waitingAfter (playerId : String) (a : Acknowledged R) : Op R → List (MovementInput R)
  | .enqueueInput id input =>
    if id = playerId ∧ (a.session.enqueueInput id input).2 then a.waiting ++ [input] else a.waiting
  | .removePlayer id => if id = playerId then [] else a.waiting
  | .step _ => []
  | _ => a.waiting

def acknowledging (env : Env R) (playerId : String) : Machine (Acknowledged R) (Op R) where
  step a op := some ⟨(a.session.apply env op).session, waitingAfter playerId a op⟩

/-- The inputs of a player that a step passes to `validateAndApplyMovement`, in order. -/
def validated (env : Env R) (now : Int) (session : GameSession R) (playerId : String) :
    List (MovementInput R) :=
  ((session.step env now).validations.filter fun v => v.playerId = playerId).map Validation.input

theorem validated_eq (env : Env R) (now : Int) (session : GameSession R) (playerId : String) :
    validated env now session playerId =
      if (session.players.get playerId).isSome then session.queueOf playerId else [] := by
  rw [validated, step_validations_of]
  cases session.players.get playerId with
  | none => rfl
  | some player =>
    rw [Option.map_some, Option.getD_some, tickValidations, List.map_map]
    exact List.map_id _

/-- The invariant: the queue holds the last of the inputs that wait, and those who have a
queue are the players. -/
structure Kept (playerId : String) (a : Acknowledged R) : Prop where
  players : (a.session.pendingInputs.get playerId).isSome = (a.session.players.get playerId).isSome
  queue : a.session.queueOf playerId = a.waiting.rtake maxPendingInputs
  absent : a.session.pendingInputs.get playerId = none → a.waiting = []

namespace Kept
variable {playerId : String} {a : Acknowledged R}

omit [Field R] [LinearOrder R] [JsMath R] in
/-- An operation that leaves the queue and the presence of the player. -/
theorem of_pending (h : Kept playerId a) {session : GameSession R}
    (hpending : session.pendingInputs.get playerId = a.session.pendingInputs.get playerId)
    (hplayers : (session.players.get playerId).isSome = (a.session.players.get playerId).isSome) :
    Kept playerId ⟨session, a.waiting⟩ where
  players := by rw [hpending, hplayers, h.players]
  queue := by rw [queueOf, hpending, ← h.queue, queueOf]
  absent hnone := h.absent (hpending ▸ hnone)

omit [Field R] [LinearOrder R] [JsMath R] in
theorem isSome_withPlayer (session : GameSession R) (id : String)
    (assign : RuntimePlayerState R → RuntimePlayerState R) :
    ((session.withPlayer id assign).players.get playerId).isSome =
      (session.players.get playerId).isSome := by
  rw [withPlayer_get]
  split
  next => rw [Option.isSome_map]
  next => rfl

omit [LinearOrder R] in
theorem addPlayer (h : Kept playerId a) (now : Int) (id username : String) :
    Kept playerId ⟨a.session.addPlayer now id username, a.waiting⟩ := by
  have hpending := addPlayer_pending_get a.session now id username playerId
  have hplayers := addPlayer_get a.session now id username playerId
  by_cases hnew : playerId = id ∧ a.session.players.get id = none
  · obtain ⟨rfl, hnone⟩ := hnew
    rw [if_pos ⟨rfl, hnone⟩] at hpending
    rw [if_pos rfl] at hplayers
    have hqueue : a.session.pendingInputs.get playerId = none := by
      rw [← Option.not_isSome_iff_eq_none, h.players, hnone]
      exact Bool.false_ne_true
    have hwaiting := h.absent hqueue
    constructor
    case players => rw [hpending, hplayers, Option.isSome_some, Option.isSome_some]
    case queue => rw [queueOf, hpending, hwaiting, List.rtake_nil, Option.getD_some]
    case absent => exact fun _ => hwaiting
  · rw [if_neg hnew] at hpending
    refine h.of_pending hpending ?_
    rw [hplayers]
    split
    next heq =>
      rw [Option.isSome_some, heq]
      exact (Option.isSome_iff_ne_none.mpr fun hnone => hnew ⟨heq, hnone⟩).symm
    next => rfl

omit [Field R] [LinearOrder R] [JsMath R] in
theorem removed {session : GameSession R} (hpending : session.pendingInputs.get playerId = none)
    (hplayers : session.players.get playerId = none) : Kept playerId ⟨session, []⟩ where
  players := by rw [hpending, hplayers, Option.isSome_none, Option.isSome_none]
  queue := by rw [queueOf, hpending, List.rtake_nil, Option.getD_none]
  absent _ := rfl

omit [Field R] [LinearOrder R] [JsMath R] in
theorem enqueued (h : Kept playerId a) (input : MovementInput R) :
    Kept playerId ⟨(a.session.enqueueInput playerId input).1,
      if (a.session.enqueueInput playerId input).2 then a.waiting ++ [input] else a.waiting⟩ := by
  have hpending := enqueueInput_pending_get a.session playerId input playerId
  rw [if_pos rfl] at hpending
  rw [enqueueInput_accepted]
  cases hget : a.session.pendingInputs.get playerId with
  | none =>
    rw [hget] at hpending
    refine h.of_pending (hpending.trans hget.symm) ?_
    rw [enqueueInput_players]
  | some queue =>
    have hqueue : queue = a.waiting.rtake maxPendingInputs := by
      rw [← h.queue, queueOf, hget, Option.getD_some]
    rw [hget, Option.map_some] at hpending
    constructor
    case players =>
      rw [hpending, enqueueInput_players, ← h.players, hget, Option.isSome_some, Option.isSome_some]
    case queue =>
      rw [queueOf, hpending, Option.getD_some, hqueue, pushInput_rtake, Option.isSome_some,
        if_pos rfl]
    case absent =>
      intro hnone
      cases hpending.symm.trans hnone

theorem drained (h : Kept playerId a) (env : Env R) (now : Int) :
    Kept playerId ⟨(a.session.step env now).session, []⟩ := by
  have hpending := step_pending_get env now a.session playerId
  constructor
  case players =>
    rw [hpending, step_players_get, Option.isSome_map, ← h.players]
    split
    next => rw [Option.isSome_map]
    next => rfl
  case queue =>
    rw [queueOf, hpending, List.rtake_nil]
    split
    next => cases a.session.pendingInputs.get playerId <;> rfl
    next habsent =>
      have hnone : a.session.pendingInputs.get playerId = none := by
        rw [← Option.not_isSome_iff_eq_none, h.players, (JsMap.get_eq_none _ _).mpr habsent]
        exact Bool.false_ne_true
      rw [hnone, Option.getD_none]
  case absent => exact fun _ => rfl

theorem step (h : Kept playerId a) (env : Env R) (op : Op R) :
    Kept playerId ⟨(a.session.apply env op).session, waitingAfter playerId a op⟩ := by
  cases op with
  | addPlayer now id username => exact h.addPlayer now id username
  | removePlayer id =>
    have hpending := removePlayer_pending_get a.session id playerId
    have hplayers := removePlayer_get a.session id playerId
    simp only [apply, waitingAfter]
    by_cases heq : id = playerId
    · rw [if_pos heq.symm] at hpending hplayers
      rw [if_pos heq]
      exact removed hpending hplayers
    · rw [if_neg (Ne.symm heq)] at hpending hplayers
      rw [if_neg heq]
      exact h.of_pending hpending (by rw [hplayers])
  | markDisconnected id =>
    exact h.of_pending (by simp [apply, markDisconnected]) (isSome_withPlayer _ _ _)
  | heartbeat now id => exact h.of_pending (by simp [apply, heartbeat]) (isSome_withPlayer _ _ _)
  | updatePing id ping => exact h.of_pending (by simp [apply, updatePing]) (isSome_withPlayer _ _ _)
  | enqueueInput id input =>
    simp only [apply, waitingAfter]
    by_cases heq : id = playerId
    · subst heq
      simp only [true_and]
      exact h.enqueued input
    · have hpending := enqueueInput_pending_get a.session id input playerId
      rw [if_neg (Ne.symm heq)] at hpending
      rw [if_neg fun hand => heq hand.1]
      exact h.of_pending hpending (by rw [enqueueInput_players])
  | step now => exact h.drained env now

theorem validated_eq_rtake (h : Kept playerId a) (env : Env R) (now : Int) :
    validated env now a.session playerId = a.waiting.rtake maxPendingInputs := by
  rw [validated_eq, ← h.players, ← h.queue, queueOf]
  cases a.session.pendingInputs.get playerId <;> rfl

end Kept

theorem kept_along (env : Env R) (roomId playerId : String) (ops : List (Op R)) :
    (acknowledging env playerId).Along (Kept playerId) (startAcknowledged roomId) ops := by
  refine Machine.along_of_invariant (fun a op b h hstep => ?_) ops ⟨rfl, rfl, fun _ => rfl⟩
  cases hstep
  exact h.step env op

/-- Whenever a session ticks, the inputs of a player it passes to
`validateAndApplyMovement` are the last forty that have been acknowledged since the tick
before, in this order. -/
theorem last_acknowledged_validated (env : Env R) (roomId playerId : String) (ops : List (Op R)) :
    (acknowledging env playerId).Along
      (fun a => ∀ now, validated env now a.session playerId = a.waiting.rtake maxPendingInputs)
      (startAcknowledged roomId) ops :=
  (kept_along env roomId playerId ops).mono fun _ h => h.validated_eq_rtake env

/-- A player joins and sends one input more than the queue holds. -/
noncomputable def overflowing : List (Op ℝ) :=
  .addPlayer 0 "p1" "nova" ::
    (List.range 41).map fun seq => .enqueueInput "p1" (runInput (seq + 1))

set_option maxRecDepth 2000 in
/-- All are acknowledged, and the step validates one less. -/
theorem oldest_acknowledged_lost :
    ¬(acknowledging defaultEnv "p1").Along
      (fun a => ∀ now, validated defaultEnv now a.session "p1" = a.waiting)
      (startAcknowledged "room-1") overflowing := by
  intro halong
  have hrun : ((acknowledging defaultEnv "p1").exec (startAcknowledged "room-1") overflowing).map
      (fun a => a.waiting.length) = some 41 := rfl
  obtain ⟨a, ha, hlength⟩ := Option.map_eq_some_iff.mp hrun
  have hkept := (kept_along defaultEnv "room-1" "p1" overflowing).last ha
  have hlost := (hkept.validated_eq_rtake defaultEnv 0).symm.trans (halong.last ha 0)
  have hlengths := congrArg List.length hlost
  rw [List.rtake, List.length_drop, hlength] at hlengths
  cases hlengths

end RealtimeGameServer.Guarantees.InputQueue
