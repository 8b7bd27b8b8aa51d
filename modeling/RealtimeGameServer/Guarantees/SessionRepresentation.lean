import RealtimeGameServer.Guarantees.InputQueue
import RealtimeGameServer.Source.Baseline

/-!
# The three maps of a session

`players`, `pendingInputs` and `previousSnapshots` are kept apart by seven operations. In
every reachable state the first two have the same keys, a player's id is its key and no
queue holds more than forty inputs; a tick, whatever it emits, leaves the queues empty and
the baseline equal to the players.
-/
namespace RealtimeGameServer.Guarantees.SessionRepresentation
open Lib Source Source.GameSession
open InputQueue (Kept)

variable {R : Type*}

structure Represented (s : GameSession R) : Prop where
  keys : ∀ k, k ∈ s.pendingInputs.keys ↔ k ∈ s.players.keys
  ids : ∀ k player, s.players.get k = some player → player.id = k
  queues : ∀ k queue, s.pendingInputs.get k = some queue → queue.length ≤ 40

/-- What holds of a session right after a tick. -/
structure Settled (s : GameSession R) : Prop where
  drained : ∀ k queue, s.pendingInputs.get k = some queue → queue = []
  baseline : ∀ k, s.previousSnapshots.get k = (s.players.get k).map toPlayerSnapshot

/-- The keys are the same, and the queue of a player is its own last forty inputs. -/
theorem Represented.kept {s : GameSession R} (h : Represented s) (playerId : String) :
    Kept playerId ⟨s, s.queueOf playerId⟩ := by
  have hlength : (s.queueOf playerId).length ≤ maxPendingInputs := by
    unfold queueOf
    cases hqueue : s.pendingInputs.get playerId with
    | none => exact Nat.zero_le _
    | some queue => exact h.queues playerId queue hqueue
  constructor
  case players =>
    rw [Bool.eq_iff_iff, Option.isSome_iff_exists, Option.isSome_iff_exists, ← JsMap.mem_keys,
      ← JsMap.mem_keys]
    exact h.keys playerId
  case queue => rw [List.rtake, Nat.sub_eq_zero_of_le hlength, List.drop_zero]
  case absent =>
    intro hnone
    rw [queueOf, hnone, Option.getD_none]

theorem length_queue_of_kept {playerId : String} {a : InputQueue.Acknowledged R}
    (h : Kept playerId a) {queue : List (MovementInput R)}
    (hqueue : a.session.pendingInputs.get playerId = some queue) : queue.length ≤ 40 := by
  have hlast := h.queue
  rw [queueOf, hqueue, Option.getD_some] at hlast
  rw [hlast, List.rtake, List.length_drop, maxPendingInputs]
  omega

theorem represented_create (roomId : String) :
    Represented (GameSession.create (R := R) roomId) where
  keys _ := Iff.rfl
  ids _ _ hplayer := by cases hplayer
  queues _ _ hqueue := by cases hqueue

variable [Field R] [LinearOrder R] [JsMath R]

/-- Every operation keeps the representation. -/
theorem Represented.apply {s : GameSession R} (h : Represented s) (env : Env R) (op : Op R) :
    Represented (s.apply env op).session := by
  have hkept : ∀ k, Kept k ⟨(s.apply env op).session, _⟩ := fun k => (h.kept k).step env op
  constructor
  case keys =>
    intro k
    rw [JsMap.mem_keys, JsMap.mem_keys, ← Option.isSome_iff_exists, ← Option.isSome_iff_exists,
      (hkept k).players]
  case ids =>
    intro k player hplayer
    by_cases hop : op.IsStep
    · cases op with
      | step now =>
        simp only [GameSession.apply, step_session, publish_players] at hplayer
        exact swept_ids h.ids k player hplayer
      | _ => exact hop.elim
    · rcases apply_player_cases env s op hop hplayer with ⟨old, hold, hbody⟩ | ⟨-, _, _, _, rfl⟩
      · exact hbody.id.trans (h.ids k old hold)
      · rfl
  case queues => exact fun k queue hqueue => length_queue_of_kept (hkept k) hqueue

/-- A tick empties the queues and restores the baseline. -/
theorem Represented.settled {s : GameSession R} (h : Represented s) (env : Env R) (now : Int) :
    Settled (s.step env now).session := by
  constructor
  case drained =>
    intro k queue hqueue
    rw [step_pending_get] at hqueue
    split at hqueue
    next =>
      obtain ⟨_, _, rfl⟩ := Option.map_eq_some_iff.mp hqueue
      rfl
    next habsent =>
      exact absurd ((h.keys k).mp ((JsMap.mem_keys _ _).mpr ⟨queue, hqueue⟩)) habsent
  case baseline =>
    intro k
    rw [step_session, publish_baseline (swept_ids h.ids), publish_players]

/-- For every run of the operations from an empty session: in every state reached the
representation holds, and a tick from there settles it. -/
theorem session_represented (env : Env R) (roomId : String) (ops : List (Op R)) :
    (machine env).Along (fun s => Represented s ∧ ∀ now, Settled (s.step env now).session)
      (GameSession.create roomId) ops := by
  have hstep : ∀ (s : GameSession R) op t, Represented s → (machine env).step s op = some t →
      Represented t := by
    intro s op t h hnext
    cases hnext
    exact h.apply env op
  exact (Machine.along_of_invariant hstep ops (represented_create roomId)).mono
    fun s h => ⟨h, h.settled env⟩

end RealtimeGameServer.Guarantees.SessionRepresentation
