import RealtimeGameServer.Source.Domain

/-!
# Movement validation

Source: infrastructure/game/anti-cheat.ts. `validateAndApplyMovement` is
translated check by check; `Date.now()` of the spawn is an argument. The
lemmas at the end are the only place where the body is unfolded: an accepted
input passed every check and moves the player by `advance`, a rejected one
hands the state back.
-/
namespace RealtimeGameServer.Source

structure MovementInput (R : Type*) where
  seq : R
  dt : R
  move : Vec3 R
  look : Vec3 R
  deriving DecidableEq, Repr

/-- The `reason` of a rejected input. -/
inductive RejectReason where
  | staleInput | invalidDt | invalidMoveVector | speedCheat | positionCheat
  deriving DecidableEq, Repr

/-- The text the source stores in `reason`. -/
def RejectReason.text : RejectReason → String
  | .staleInput => "stale_input"
  | .invalidDt => "invalid_dt"
  | .invalidMoveVector => "invalid_move_vector"
  | .speedCheat => "speed_cheat"
  | .positionCheat => "position_cheat"

structure ValidationResult (R : Type*) where
  accepted : Bool
  reason : Option RejectReason
  state : RuntimePlayerState R
  deriving DecidableEq, Repr

variable {R : Type*} [Field R] [LinearOrder R] [JsMath R]

def createRuntimePlayer (id username : String) (spawnIndex : Nat) (now : Int) :
    RuntimePlayerState R :=
  let angle : R := spawnIndex * JsMath.pi * 2 / 8
  { id
    username
    position := createVec3 (JsMath.cos angle * 5) 0 (JsMath.sin angle * 5)
    rotation := createVec3 0 angle 0
    velocity := createVec3 0 0 0
    hp := defaultPlayerHp
    connected := true
    ping := 0
    lastProcessedInputSeq := 0
    lastHeartbeatAt := now }

/-- `nextVelocity`: the intent scaled by `min(1, |move|) * maxSpeed`. -/
def nextVelocity (maxSpeed : R) (move : Vec3 R) : Vec3 R :=
  let speed := min 1 (magnitude move) * maxSpeed
  ⟨move.x * speed, move.y * speed, move.z * speed⟩

/-- `proposedPosition`, before clamping. -/
def proposedPosition (position velocity : Vec3 R) (dt : R) : Vec3 R :=
  ⟨position.x + velocity.x * dt, position.y + velocity.y * dt, position.z + velocity.z * dt⟩

/-- The state `next` that an accepted input leaves behind. -/
def advance (maxSpeed : R) (state : RuntimePlayerState R) (input : MovementInput R) :
    RuntimePlayerState R :=
  let velocity := nextVelocity maxSpeed input.move
  { state with
    position := clampVec3 (proposedPosition state.position velocity input.dt) worldBounds
    velocity
    rotation := ⟨input.look.x, input.look.y, input.look.z⟩
    lastProcessedInputSeq := input.seq }

def validateAndApplyMovement (state : RuntimePlayerState R) (input : MovementInput R)
    (maxSpeed : R) : ValidationResult R :=
  if input.seq ≤ state.lastProcessedInputSeq then ⟨false, some .staleInput, state⟩
  else if input.dt ≤ 0 ∨ input.dt > 0.25 then ⟨false, some .invalidDt, state⟩
  else if magnitude input.move > 1.05 then ⟨false, some .invalidMoveVector, state⟩
  else
    let velocity := nextVelocity maxSpeed input.move
    if magnitude velocity > maxSpeed + 0.01 then ⟨false, some .speedCheat, state⟩
    else
      let proposed := proposedPosition state.position velocity input.dt
      let teleportDistance := magnitude
        ⟨proposed.x - state.position.x, proposed.y - state.position.y,
          proposed.z - state.position.z⟩
      let maxDistance := maxSpeed * input.dt * 1.15
      if teleportDistance > maxDistance then ⟨false, some .positionCheat, state⟩
      else ⟨true, none, advance maxSpeed state input⟩

/-- The checks that look at the input and the speed limit only. -/
structure Admissible (maxSpeed : R) (input : MovementInput R) : Prop where
  dt_pos : 0 < input.dt
  dt_le : input.dt ≤ 0.25
  move_le : magnitude input.move ≤ 1.05
  speed_le : magnitude (nextVelocity maxSpeed input.move) ≤ maxSpeed + 0.01

theorem validate_cases (state : RuntimePlayerState R) (input : MovementInput R) (maxSpeed : R) :
    (∃ reason, validateAndApplyMovement state input maxSpeed = ⟨false, some reason, state⟩) ∨
    (state.lastProcessedInputSeq < input.seq ∧ Admissible maxSpeed input ∧
      validateAndApplyMovement state input maxSpeed =
        ⟨true, none, advance maxSpeed state input⟩) := by
  unfold validateAndApplyMovement
  split
  next => exact Or.inl ⟨_, rfl⟩
  next hseq =>
    split
    next => exact Or.inl ⟨_, rfl⟩
    next hdt =>
      split
      next => exact Or.inl ⟨_, rfl⟩
      next hmove =>
        dsimp only
        split
        next => exact Or.inl ⟨_, rfl⟩
        next hspeed =>
          split
          next => exact Or.inl ⟨_, rfl⟩
          next =>
            rw [not_or, not_le, not_lt] at hdt
            exact Or.inr ⟨not_le.mp hseq,
              ⟨hdt.1, hdt.2, not_lt.mp hmove, not_lt.mp hspeed⟩, rfl⟩

theorem validate_rejected {state : RuntimePlayerState R} {input : MovementInput R} {maxSpeed : R}
    (h : (validateAndApplyMovement state input maxSpeed).accepted = false) :
    (validateAndApplyMovement state input maxSpeed).state = state := by
  rcases validate_cases state input maxSpeed with ⟨reason, hr⟩ | ⟨_, _, ha⟩
  · rw [hr]
  · rw [ha] at h
    cases h

theorem validate_accepted {state : RuntimePlayerState R} {input : MovementInput R} {maxSpeed : R}
    (h : (validateAndApplyMovement state input maxSpeed).accepted = true) :
    state.lastProcessedInputSeq < input.seq ∧ Admissible maxSpeed input ∧
      (validateAndApplyMovement state input maxSpeed).state = advance maxSpeed state input := by
  rcases validate_cases state input maxSpeed with ⟨reason, hr⟩ | ⟨hseq, hadm, ha⟩
  · rw [hr] at h
    cases h
  · exact ⟨hseq, hadm, by rw [ha]⟩

/-- Only the position and the sequence counter of the state are consulted. -/
theorem validate_accepted_congr {s t : RuntimePlayerState R} (input : MovementInput R)
    (maxSpeed : R) (hpos : s.position = t.position)
    (hseq : s.lastProcessedInputSeq = t.lastProcessedInputSeq) :
    (validateAndApplyMovement s input maxSpeed).accepted =
      (validateAndApplyMovement t input maxSpeed).accepted := by
  unfold validateAndApplyMovement
  rw [hpos, hseq]
  dsimp only
  repeat' split
  all_goals rfl

end RealtimeGameServer.Source
