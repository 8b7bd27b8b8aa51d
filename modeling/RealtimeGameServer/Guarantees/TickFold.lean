import RealtimeGameServer.Lib.Sequenced
import RealtimeGameServer.Source.JsSession

/-!
# One tick against the fold of its queue

The tick should leave a player as the left fold of `validateAndApplyMovement` over its queue
does. The loop keeps the state it bound first, so it leaves the player as the last input
acceptable to that state does, applied to that state; the fold ends with the last of the inputs
that are acceptable one on top of the other. `QueueChains` is what a queue has to look like for
the two to agree. The numbers are those of `JsNumber`: whether an input is accepted may depend
on the position, in the last place of a length, and different moves may round to one velocity.
-/
namespace RealtimeGameServer.Guarantees.TickFold
open Lib Source.JsNumber
open Source hiding magnitude nextVelocity proposedPosition clampVec3 worldBounds
  createRuntimePlayer advance validateAndApplyMovement validate_accepted validate_rejected
  validate_accepted_congr defaultEnv

/-- The left fold; a rejected input hands the accumulator back. -/
def foldInputs (env : JsEnv) (player : RuntimePlayerState JsNumber)
    (queue : List (MovementInput JsNumber)) : RuntimePlayerState JsNumber :=
  queue.foldl (fun acc input => (validateAndApplyMovement acc input env.maxMoveSpeed).state) player

/-- Agreement on the fields that movement inputs determine. -/
structure SameMovement (p q : RuntimePlayerState JsNumber) : Prop where
  position : p.position = q.position
  velocity : p.velocity = q.velocity
  rotation : p.rotation = q.rotation
  lastProcessedInputSeq : p.lastProcessedInputSeq = q.lastProcessedInputSeq

/-- The queue the tick drains for a player. -/
def queueOf (s : GameSession JsNumber) (playerId : String) : List (MovementInput JsNumber) :=
  (s.pendingInputs.get playerId).getD []

/-- `step` leaves the player as the fold of its queue does. -/
def FoldsQueue (env : JsEnv) (now : Int) (s : GameSession JsNumber) (playerId : String)
    (player : RuntimePlayerState JsNumber) : Prop :=
  ∃ after, ((numerics env).step now s).1.players.get playerId = some after ∧
    SameMovement after (foldInputs env player (queueOf s playerId))

/-- The input passes the checks against the state. -/
def accepts (env : JsEnv) (state : RuntimePlayerState JsNumber)
    (input : MovementInput JsNumber) : Bool :=
  (validateAndApplyMovement state input env.maxMoveSpeed).accepted

/-- The queued inputs that pass the checks against the state the tick began with. -/
def fresh (env : JsEnv) (player : RuntimePlayerState JsNumber)
    (queue : List (MovementInput JsNumber)) : List (MovementInput JsNumber) :=
  queue.filter (accepts env player)

/-- The queued inputs that pass them one on top of the other. -/
def chain (env : JsEnv) (player : RuntimePlayerState JsNumber)
    (queue : List (MovementInput JsNumber)) : List (MovementInput JsNumber) :=
  Guarded.chain (accepts env) (advance env.maxMoveSpeed) player queue

/-- Where an input leads from a position, within the world. -/
def destination (env : JsEnv) (position : Vec3 JsNumber) (input : MovementInput JsNumber) :
    Vec3 JsNumber :=
  clampVec3 (proposedPosition position (nextVelocity env.maxMoveSpeed input.move) input.dt)
    worldBounds

/-- Nothing queued is fresh; or the last fresh input and the last of the chain carry one number
and one look, command one velocity, and lead to one position: the first from where the tick
began, the second from where the rest of the chain leads. -/
def QueueChains (env : JsEnv) (player : RuntimePlayerState JsNumber)
    (queue : List (MovementInput JsNumber)) : Prop :=
  match (fresh env player queue).getLast?, (chain env player queue).getLast? with
  | some last, some newest =>
      last.seq = newest.seq ∧ last.look = newest.look ∧
      nextVelocity env.maxMoveSpeed last.move = nextVelocity env.maxMoveSpeed newest.move ∧
      destination env player.position last =
        destination env ((chain env player queue).dropLast.foldl (destination env) player.position)
          newest
  | _, _ => True

theorem foldInputs_eq_chain (env : JsEnv) (player : RuntimePlayerState JsNumber)
    (queue : List (MovementInput JsNumber)) :
    foldInputs env player queue =
      (chain env player queue).foldl (advance env.maxMoveSpeed) player := by
  have habsorb : (fun acc input => (validateAndApplyMovement acc input env.maxMoveSpeed).state) =
      Guarded.absorb (accepts env) (advance env.maxMoveSpeed) := by
    funext acc input
    unfold Guarded.absorb
    split
    next hacc => exact validate_accepted hacc
    next hrej => exact validate_rejected (Bool.eq_false_iff.mpr hrej)
  rw [foldInputs, habsorb]
  exact Guarded.foldl_absorb _ _ player queue

theorem foldl_advance_position (env : JsEnv) (inputs : List (MovementInput JsNumber))
    (player : RuntimePlayerState JsNumber) :
    (inputs.foldl (advance env.maxMoveSpeed) player).position =
      inputs.foldl (destination env) player.position := by
  induction inputs generalizing player with
  | nil => rfl
  | cons input rest ih =>
    rw [List.foldl_cons, ih]
    rfl

/-- Two applied inputs leave the same movement precisely when they carry the same number and
look, command the same velocity and arrive at the same stored position. -/
theorem sameMovement_advance_iff (env : JsEnv) (p q : RuntimePlayerState JsNumber)
    (i j : MovementInput JsNumber) :
    SameMovement (advance env.maxMoveSpeed p i) (advance env.maxMoveSpeed q j) ↔
      i.seq = j.seq ∧ i.look = j.look ∧
      nextVelocity env.maxMoveSpeed i.move = nextVelocity env.maxMoveSpeed j.move ∧
      destination env p.position i = destination env q.position j := by
  constructor
  · intro h
    exact ⟨h.lastProcessedInputSeq, h.rotation, h.velocity, h.position⟩
  · rintro ⟨hseq, hlook, hvelocity, hposition⟩
    constructor
    case position => exact hposition
    case velocity => exact hvelocity
    case rotation => exact hlook
    case lastProcessedInputSeq => exact hseq

/-- The heartbeat check leaves what movement reads and writes. -/
theorem expireHeartbeat_sameMovement (env : JsEnv) (now : Int)
    (player : RuntimePlayerState JsNumber) :
    SameMovement ((numerics env).expireHeartbeat now player) player := by
  unfold Numerics.expireHeartbeat
  split <;> exact ⟨rfl, rfl, rfl, rfl⟩

theorem lastAccepted_eq (env : JsEnv) (now : Int) (player : RuntimePlayerState JsNumber)
    (queue : List (MovementInput JsNumber)) :
    (numerics env).lastAccepted now player queue = (fresh env player queue).getLast? := by
  have hbody := expireHeartbeat_sameMovement env now player
  have hsame : (fun input => ((numerics env).validateAndApplyMovement
      ((numerics env).expireHeartbeat now player) input).accepted) = accepts env player :=
    funext fun input => validate_accepted_congr input env.maxMoveSpeed hbody.position
      hbody.lastProcessedInputSeq
  rw [Numerics.lastAccepted, hsame, fresh]

/-- The comparison for one player. -/
theorem tickPlayer_folds_iff (env : JsEnv) (now : Int) (player : RuntimePlayerState JsNumber)
    (queue : List (MovementInput JsNumber)) :
    SameMovement ((numerics env).tickPlayer now player queue) (foldInputs env player queue) ↔
      QueueChains env player queue := by
  have hbody := expireHeartbeat_sameMovement env now player
  have hnil : chain env player queue = [] ↔ fresh env player queue = [] :=
    Guarded.chain_eq_nil _ _ player queue
  rw [Numerics.tickPlayer, lastAccepted_eq, foldInputs_eq_chain, QueueChains]
  cases hlast : (fresh env player queue).getLast? with
  | none =>
    -- nothing fresh: neither side moves the player
    rw [hnil.mpr (List.getLast?_eq_none_iff.mp hlast)]
    exact iff_of_true hbody trivial
  | some last =>
    have hchained : chain env player queue ≠ [] := by
      rw [Ne, hnil, ← List.getLast?_eq_none_iff, hlast]
      exact Option.some_ne_none last
    obtain ⟨hmem, haccepted⟩ := List.mem_filter.mp (List.mem_of_getLast? hlast)
    have hstate : ((numerics env).validateAndApplyMovement
        ((numerics env).expireHeartbeat now player) last).state =
          advance env.maxMoveSpeed ((numerics env).expireHeartbeat now player) last :=
      validate_accepted ((validate_accepted_congr last env.maxMoveSpeed hbody.position
        hbody.lastProcessedInputSeq).trans haccepted)
    obtain ⟨earlier, newest, hsplit⟩ := (List.eq_nil_or_concat _).resolve_left hchained
    rw [hsplit, List.concat_eq_append]
    simp only [hstate, List.getLast?_append, List.getLast?_singleton, Option.some_or,
      List.foldl_append, List.foldl_cons, List.foldl_nil, List.dropLast_concat]
    rw [sameMovement_advance_iff, hbody.position, foldl_advance_position]

/-- One tick leaves a player as the fold of `validateAndApplyMovement` over its queue does if
and only if the queue chains. -/
theorem step_folds_queue_iff (env : JsEnv) (now : Int) (s : GameSession JsNumber)
    (playerId : String) (player : RuntimePlayerState JsNumber)
    (present : s.players.get playerId = some player) :
    FoldsQueue env now s playerId player ↔ QueueChains env player (queueOf s playerId) := by
  have hplayers : ((numerics env).step now s).1.players = ((numerics env).swept now s).players :=
    Numerics.publish_players now _
  rw [← tickPlayer_folds_iff env now player (queueOf s playerId), FoldsQueue, hplayers,
    Numerics.swept_players_get, present]
  simp [queueOf]

/-- A full-speed intent along x, numbered `seq`. -/
def stride (seq : JsNumber) : MovementInput JsNumber where
  seq
  dt := 0.05
  move := ⟨1, 0, 0⟩
  look := ⟨0, 0, 0⟩

def newcomer : RuntimePlayerState JsNumber := createRuntimePlayer defaultEnv "p1" "nova" 0 0

/-- A session with one player and the given inputs queued. -/
def queued (player : RuntimePlayerState JsNumber) (inputs : List (MovementInput JsNumber)) :
    GameSession JsNumber where
  roomId := "room-1"
  players := JsMap.empty.set "p1" player
  previousSnapshots := JsMap.empty
  tick := 0
  pendingInputs := JsMap.empty.set "p1" inputs

/-- Two inputs in one tick: the second is applied where the tick began. -/
theorem second_input_does_not_chain :
    (queued newcomer [stride 1, stride 2]).players.get "p1" = some newcomer ∧
    ¬FoldsQueue defaultEnv 50 (queued newcomer [stride 1, stride 2]) "p1" newcomer := by
  refine ⟨rfl, ?_⟩
  rintro ⟨after, hget, hsame⟩
  have hx : after.position.x = 6.199999999999999 := by
    rw [hsame.position]
    decide +kernel
  -- the fold arrives at 6.199999999999999, the tick at 5.6
  have htick : (((numerics defaultEnv).step 50 (queued newcomer [stride 1, stride 2])).1.players.get
      "p1").map (fun player => player.position.x) = some 5.6 := by
    decide +kernel
  rw [hget, Option.map_some, Option.some.injEq, hx] at htick
  exact absurd htick (by decide +kernel)

/-- At the wall a queue of three inputs, one of them a repetition, chains: every stride ends
where it began. -/
theorem strides_at_wall_chain :
    FoldsQueue defaultEnv 50
      (queued { newcomer with position := ⟨100, 0, 0⟩ } [stride 1, stride 1, stride 2]) "p1"
      { newcomer with position := ⟨100, 0, 0⟩ } := by
  refine (step_folds_queue_iff defaultEnv 50 _ "p1" _ rfl).mpr ?_
  have hfresh : fresh defaultEnv { newcomer with position := ⟨100, 0, 0⟩ }
      [stride 1, stride 1, stride 2] = [stride 1, stride 1, stride 2] := by decide +kernel
  have hchain : chain defaultEnv { newcomer with position := ⟨100, 0, 0⟩ }
      [stride 1, stride 1, stride 2] = [stride 1, stride 2] := by decide +kernel
  change QueueChains defaultEnv _ [stride 1, stride 1, stride 2]
  rw [QueueChains, hfresh, hchain]
  exact ⟨rfl, rfl, rfl, by decide +kernel⟩

end RealtimeGameServer.Guarantees.TickFold
