import RealtimeGameServer.Source.JsNumber
import RealtimeGameServer.Source.NumericSession
import RealtimeGameServer.Source.Protocol

/-!
# The game session over JavaScript numbers

Source: infrastructure/game/anti-cheat.ts, infrastructure/websocket/protocol.ts and the
`input`, `ping` and `heartbeat` arms of gateway.ts:221-300, over the numbers of `JsNumber`:
every operation rounds and may overflow, in the order in which the source makes them. A frame
reaches the session only as a message that the schema accepts. `Math.cos` and `Math.sin`,
which the standard leaves to the implementation, are parameters of the environment.
-/
namespace RealtimeGameServer.Source
open Lib Lib.Binary64

namespace JsNumber

def magnitude (v : Vec3 JsNumber) : JsNumber := sqrt (v.x * v.x + v.y * v.y + v.z * v.z)

/-- `Math.min(max, Math.max(min, value))`. -/
def clamp (lo hi value : JsNumber) : JsNumber := jsMin hi (jsMax lo value)

def clampVec3 (v : Vec3 JsNumber) (bounds : Bounds JsNumber) : Vec3 JsNumber where
  x := clamp bounds.minX bounds.maxX v.x
  y := clamp bounds.minY bounds.maxY v.y
  z := clamp bounds.minZ bounds.maxZ v.z

def worldBounds : Bounds JsNumber where
  minX := -100
  maxX := 100
  minY := 0
  maxY := 50
  minZ := -100
  maxZ := 100

def nextVelocity (maxSpeed : JsNumber) (move : Vec3 JsNumber) : Vec3 JsNumber :=
  let speed := jsMin 1 (magnitude move) * maxSpeed
  ⟨move.x * speed, move.y * speed, move.z * speed⟩

def proposedPosition (position velocity : Vec3 JsNumber) (dt : JsNumber) : Vec3 JsNumber :=
  ⟨position.x + velocity.x * dt, position.y + velocity.y * dt, position.z + velocity.z * dt⟩

/-- The state `next`. -/
def advance (maxSpeed : JsNumber) (state : RuntimePlayerState JsNumber)
    (input : MovementInput JsNumber) : RuntimePlayerState JsNumber :=
  let velocity := nextVelocity maxSpeed input.move
  { state with
    position := clampVec3 (proposedPosition state.position velocity input.dt) worldBounds
    velocity
    rotation := ⟨input.look.x, input.look.y, input.look.z⟩
    lastProcessedInputSeq := input.seq }

def validateAndApplyMovement (state : RuntimePlayerState JsNumber)
    (input : MovementInput JsNumber) (maxSpeed : JsNumber) : ValidationResult JsNumber :=
  if input.seq ≤ state.lastProcessedInputSeq then ⟨false, some .staleInput, state⟩
  else if input.dt ≤ 0 ∨ input.dt > 0.25 then ⟨false, some .invalidDt, state⟩
  else if magnitude input.move > 1.05 then ⟨false, some .invalidMoveVector, state⟩
  else
    let velocity := nextVelocity maxSpeed input.move
    if magnitude velocity > maxSpeed + 0.01 then ⟨false, some .speedCheat, state⟩
    else
      let proposed := proposedPosition state.position velocity input.dt
      let teleportDistance := magnitude
        ⟨proposed.x - state.position.x, proposed.y - state.position.y,
          proposed.z - state.position.z⟩
      let maxDistance := maxSpeed * input.dt * 1.15
      if teleportDistance > maxDistance then ⟨false, some .positionCheat, state⟩
      else ⟨true, none, advance maxSpeed state input⟩

theorem validate_accepted {state : RuntimePlayerState JsNumber}
    {input : MovementInput JsNumber} {maxSpeed : JsNumber}
    (h : (validateAndApplyMovement state input maxSpeed).accepted = true) :
    (validateAndApplyMovement state input maxSpeed).state = advance maxSpeed state input := by
  unfold validateAndApplyMovement at h ⊢
  dsimp only at h ⊢
  split_ifs at h ⊢
  rfl

theorem validate_rejected {state : RuntimePlayerState JsNumber}
    {input : MovementInput JsNumber} {maxSpeed : JsNumber}
    (h : (validateAndApplyMovement state input maxSpeed).accepted = false) :
    (validateAndApplyMovement state input maxSpeed).state = state := by
  unfold validateAndApplyMovement at h ⊢
  dsimp only at h ⊢
  split_ifs at h ⊢ <;> rfl

/-- Only the position and the sequence counter of the state are consulted. -/
theorem validate_accepted_congr {s t : RuntimePlayerState JsNumber}
    (input : MovementInput JsNumber) (maxSpeed : JsNumber) (hposition : s.position = t.position)
    (hseq : s.lastProcessedInputSeq = t.lastProcessedInputSeq) :
    (validateAndApplyMovement s input maxSpeed).accepted =
      (validateAndApplyMovement t input maxSpeed).accepted := by
  unfold validateAndApplyMovement
  rw [hposition, hseq]
  dsimp only
  split_ifs <;> rfl

/-- `z.number()`. -/
def asNumber (value : Json JsNumber) : Option JsNumber :=
  value.asNum.filter fun x => x ≠ nan

/-- `z.number().min(-1).max(1)`. -/
def unitRange (value : JsNumber) : Bool := -1 ≤ value && value ≤ 1

/-- The checks of the `input` arm. -/
def inputChecks (input : MovementInput JsNumber) : Bool :=
  isInteger input.seq && 0 ≤ input.seq &&
  0 < input.dt && input.dt ≤ 0.25 &&
  unitRange input.move.x && unitRange input.move.y && unitRange input.move.z

def parseVec (value : Json JsNumber) : Option (Vec3 JsNumber) := do
  let x ← asNumber (← value.field "x")
  let y ← asNumber (← value.field "y")
  let z ← asNumber (← value.field "z")
  some ⟨x, y, z⟩

def parseInput (value : Json JsNumber) : Option (MovementInput JsNumber) := do
  let seq ← asNumber (← value.field "seq")
  let dt ← asNumber (← value.field "dt")
  let move ← parseVec (← value.field "move")
  let look ← parseVec (← value.field "look")
  let input : MovementInput JsNumber := { seq, dt, move, look }
  if inputChecks input then some input else none

def parsePing (value : Json JsNumber) : Option JsNumber := do
  let clientTime ← asNumber (← value.field "clientTime")
  if isInteger clientTime && 0 ≤ clientTime then some clientTime else none

/-- `ClientMessageSchema.safeParse`, `none` for `success: false`. -/
def clientMessageSchema (value : Json JsNumber) : Option (ClientMessage JsNumber) := do
  match ← (← value.field "type").asStr with
  | "join_session" =>
    (parseJoinSession value).map fun (roomId, reconnectToken) =>
      .joinSession roomId reconnectToken
  | "input" => (parseInput value).map .input
  | "ping" => (parsePing value).map .ping
  | "heartbeat" => some .heartbeat
  | "request_snapshot" => some .requestSnapshot
  | _ => none

theorem parseInput_checks {value : Json JsNumber} {input : MovementInput JsNumber}
    (h : parseInput value = some input) : inputChecks input = true := by
  simp only [parseInput, Option.bind_eq_bind, Option.bind_eq_some_iff] at h
  obtain ⟨_, -, seq, -, _, -, dt, -, _, -, move, -, _, -, look, -, h⟩ := h
  split at h
  next hchecks =>
    cases h
    exact hchecks
  next => cases h

theorem parsePing_checks {value : Json JsNumber} {clientTime : JsNumber}
    (h : parsePing value = some clientTime) : isInteger clientTime = true ∧ 0 ≤ clientTime := by
  simp only [parsePing, Option.bind_eq_bind, Option.bind_eq_some_iff] at h
  obtain ⟨_, -, time, -, h⟩ := h
  split at h
  next hchecks =>
    cases h
    exact ⟨(Bool.and_eq_true_iff.mp hchecks).1,
      of_decide_eq_true (Bool.and_eq_true_iff.mp hchecks).2⟩
  next => cases h

/-- What an accepted message is checked for. -/
theorem clientMessageSchema_cases {value : Json JsNumber}
    {message : ClientMessage JsNumber} (h : clientMessageSchema value = some message) :
    match message with
    | .input input => inputChecks input = true
    | .ping clientTime => isInteger clientTime = true ∧ 0 ≤ clientTime
    | _ => True := by
  simp only [clientMessageSchema, Option.bind_eq_bind, Option.bind_eq_some_iff] at h
  obtain ⟨kind, -, tag, -, h⟩ := h
  split at h
  case h_1 =>
    obtain ⟨⟨roomId, reconnectToken⟩, -, rfl⟩ := Option.map_eq_some_iff.mp h
    trivial
  case h_2 =>
    obtain ⟨input, hinput, rfl⟩ := Option.map_eq_some_iff.mp h
    exact parseInput_checks hinput
  case h_3 =>
    obtain ⟨clientTime, hping, rfl⟩ := Option.map_eq_some_iff.mp h
    exact parsePing_checks hping
  case h_4 =>
    cases h
    trivial
  case h_5 =>
    cases h
    trivial
  case h_6 => cases h

/-- What the checks leave of the numbers of an input. -/
structure CheckedInput (input : MovementInput JsNumber) : Prop where
  seq : input.seq.isFinite = true
  dt : Within 1 input.dt
  moveX : Within 1 input.move.x
  moveY : Within 1 input.move.y
  moveZ : Within 1 input.move.z

theorem checked_of_checks {input : MovementInput JsNumber} (h : inputChecks input = true) :
    CheckedInput input := by
  have hone : Within 1 1 := by
    rw [one_eq]
    exact (abs_one (α := ℚ)).le
  have hminus : Within 1 (-1) := by
    rw [one_eq]
    exact (abs_neg (1 : ℚ)).trans_le abs_one.le
  have hunit : ∀ {x : JsNumber}, unitRange x = true → Within 1 x := by
    intro x hx
    obtain ⟨lower, upper⟩ := Bool.and_eq_true_iff.mp hx
    exact within_of_between hminus hone (of_decide_eq_true lower) (of_decide_eq_true upper)
  have hzero : Within 1 0 := by
    rw [zero_eq]
    exact abs_zero.trans_le zero_le_one
  have hquarter : Within 1 0.25 :=
    within_ofRat (representable_two_pow (Nat.zero_le 971)) (by norm_num)
  simp only [inputChecks, Bool.and_eq_true, decide_eq_true_eq] at h
  obtain ⟨⟨⟨⟨⟨⟨hseq, -⟩, hpositive⟩, hmax⟩, hx⟩, hy⟩, hz⟩ := h
  exact
    { seq := isFinite_of_isInteger hseq
      dt := within_of_between hzero hquarter (le_of_lt hpositive) hmax
      moveX := hunit hx
      moveY := hunit hy
      moveZ := hunit hz }

theorem CheckedInput.finiteMove {input : MovementInput JsNumber} (h : CheckedInput input) :
    FiniteVec input.move :=
  ⟨h.moveX.isFinite, h.moveY.isFinite, h.moveZ.isFinite⟩

theorem asNumber_num {x : JsNumber} (h : x ≠ nan) : asNumber (.num x) = some x := by
  simp [asNumber, Json.asNum, Option.filter, h]

theorem parseVec_vecFrame {v : Vec3 JsNumber} (h : NumberVec v) :
    parseVec (vecFrame v) = some v := by
  obtain ⟨hx, hy, hz⟩ := h
  simp [parseVec, vecFrame, Json.field, asNumber_num, hx, hy, hz]

/-- A checked input whose `look` holds numbers is accepted, whatever numbers they are. -/
theorem clientMessageSchema_inputFrame {input : MovementInput JsNumber}
    (hchecks : inputChecks input = true) (hlook : NumberVec input.look) :
    clientMessageSchema (inputFrame input) = some (.input input) := by
  have hchecked := checked_of_checks hchecks
  have hinput : parseInput (inputFrame input) = some input := by
    simp [parseInput, inputFrame, Json.field, asNumber_num, ne_nan_of_isFinite hchecked.seq,
      ne_nan_of_isFinite hchecked.dt.isFinite, parseVec_vecFrame hchecked.finiteMove.numberVec,
      parseVec_vecFrame hlook, hchecks]
  have htag : (inputFrame input).field "type" = some (.str "input") := rfl
  simp only [clientMessageSchema, htag, Option.bind_eq_bind, Option.bind_some, Json.asStr, hinput,
    Option.map_some]

/-- The environment, with a maximal speed that may be `Infinity`. The standard promises no
more of `Math.cos` and `Math.sin` than an approximation, which lies between `-1` and `1`. -/
structure JsEnv where
  maxMoveSpeed : JsNumber
  heartbeatTimeoutMs : Int
  cos : JsNumber → JsNumber
  sin : JsNumber → JsNumber
  maxMoveSpeed_pos : 0 < maxMoveSpeed
  heartbeatTimeoutMs_pos : 0 < heartbeatTimeoutMs
  cos_within : ∀ x, x.isFinite = true → Within 1 (cos x)
  sin_within : ∀ x, x.isFinite = true → Within 1 (sin x)

/-- `spawnIndex * Math.PI * 2 / 8`. -/
def spawnAngle (spawnIndex : Nat) : JsNumber :=
  divLit 8 (ofCount spawnIndex * 3.141592653589793 * 2)

theorem isFinite_spawnAngle (spawnIndex : Nat) : (spawnAngle spawnIndex).isFinite = true := by
  have hpi : Within (2 ^ 2) 3.141592653589793 :=
    within_ofRat (representable_two_pow (by norm_num)) (by norm_num)
  have htwo : Within (2 ^ 1) 2 := by
    change Within (2 ^ 1) (ofRat ((2 : ℕ) : ℚ))
    exact within_ofRat (representable_two_pow (by norm_num)) (by norm_num)
  have hpower : ∀ {a b : ℕ}, a + b ≤ 971 → Representable ((2 : ℚ) ^ a * 2 ^ b) := by
    intro a b hab
    rw [← pow_add]
    exact representable_two_pow hab
  have hturn : Within (2 ^ 53 * 2 ^ 2) (ofCount spawnIndex * 3.141592653589793) :=
    within_mul (hpower (by norm_num)) (within_ofCount spawnIndex) hpi
  rw [← pow_add] at hturn
  exact isFinite_divLit (by norm_num) (within_mul (hpower (by norm_num)) hturn htwo).isFinite

def createRuntimePlayer (env : JsEnv) (id username : String) (spawnIndex : Nat) (now : Int) :
    RuntimePlayerState JsNumber :=
  let angle := spawnAngle spawnIndex
  { id
    username
    position := ⟨env.cos angle * 5, 0, env.sin angle * 5⟩
    rotation := ⟨0, angle, 0⟩
    velocity := ⟨0, 0, 0⟩
    hp := 100
    connected := true
    ping := 0
    lastProcessedInputSeq := 0
    lastHeartbeatAt := now }

def numerics (env : JsEnv) : Numerics JsNumber where
  createRuntimePlayer := createRuntimePlayer env
  validateAndApplyMovement state input :=
    validateAndApplyMovement state input env.maxMoveSpeed
  storedPing ping := jsMax 0 (round ping)
  heartbeatTimeoutMs := env.heartbeatTimeoutMs

theorem defaultHeartbeatTimeoutMs_pos : (0 : Int) < 15000 := by decide

/-- The default values of the schema. Of `Math.cos` and `Math.sin` only the values at the angle
`0` of the first place are those of the functions. -/
def defaultEnv : JsEnv where
  maxMoveSpeed := 12
  heartbeatTimeoutMs := 15000
  cos x := if x = 0 then 1 else 0
  sin _ := 0
  maxMoveSpeed_pos := by decide +kernel
  heartbeatTimeoutMs_pos := defaultHeartbeatTimeoutMs_pos
  cos_within x _ := by
    split
    next => rw [one_eq]; exact abs_one.le
    next => rw [zero_eq]; exact abs_zero.trans_le zero_le_one
  sin_within _ _ := by rw [zero_eq]; exact abs_zero.trans_le zero_le_one

/-- What happens to a session: what the gateway calls for a player, a frame of the player
with the JSON value that it parses to, a snapshot for a socket that has joined, and the
timer. -/
inductive Drive where
  | addPlayer (now : Int) (playerId username : String)
  | removePlayer (playerId : String)
  | markDisconnected (playerId : String)
  | frame (now : Int) (playerId : String) (value : Json JsNumber)
  | joined (now : Int)
  | step (now : Int)

/-- The operation of the session that a message of a player calls. -/
def messageOp (now : Int) (playerId : String) :
    ClientMessage JsNumber → Option (GameSession.Op JsNumber)
  | .input input => some (.enqueueInput playerId input)
  | .ping clientTime =>
    some (.updatePing playerId (jsMax 0 (ofTime now - clientTime)))
  | .heartbeat => some (.heartbeat now playerId)
  | .joinSession _ _ => none
  | .requestSnapshot => none

def driveOp : Drive → Option (GameSession.Op JsNumber)
  | .addPlayer now playerId username => some (.addPlayer now playerId username)
  | .removePlayer playerId => some (.removePlayer playerId)
  | .markDisconnected playerId => some (.markDisconnected playerId)
  | .frame now playerId value => (clientMessageSchema value).bind (messageOp now playerId)
  | .joined _ => none
  | .step now => some (.step now)

/-- The full snapshots that answer a join and a `request_snapshot`. -/
def replies (s : GameSession JsNumber) : Drive → List (SnapshotMessage JsNumber)
  | .joined now => [.full (s.buildFullSnapshot now)]
  | .frame now _ value =>
    match clientMessageSchema value with
    | some .requestSnapshot => [.full (s.buildFullSnapshot now)]
    | _ => []
  | _ => []

/-- A session with the snapshots and deltas that have been sent from it. -/
structure Broadcasting where
  session : GameSession JsNumber
  sent : List (SnapshotMessage JsNumber)

def startBroadcasting (roomId : String) : Broadcasting := ⟨GameSession.create roomId, []⟩

/-- The messages among the events. -/
def messages {N : Type*} (events : List (SessionEvent N)) : List (SnapshotMessage N) :=
  events.filterMap fun event =>
    match event with
    | .snapshot message => some message
    | .playerDisconnected _ => none

/-- The session after the drive, with the events it emits. -/
def driven (env : JsEnv) (s : GameSession JsNumber) (drive : Drive) :
    GameSession JsNumber × List (SessionEvent JsNumber) :=
  match driveOp drive with
  | none => (s, [])
  | some op => (numerics env).apply s op

def broadcasting (env : JsEnv) : Machine (Broadcasting) (Drive) where
  step b drive :=
    let result := driven env b.session drive
    some ⟨result.1, b.sent ++ (messages result.2 ++ replies b.session drive)⟩

end JsNumber
end RealtimeGameServer.Source
