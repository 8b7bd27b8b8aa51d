import RealtimeGameServer.Source.GameSession

/-!
# Client and server messages

Source: infrastructure/websocket/protocol.ts. A JSON value is what `JSON.parse`
returns; an object is its own-property read, so duplicate members and member
order are gone, as they are for the schema. `ClientMessageSchema` follows the
declaration field by field; unknown members are stripped. Numbers are those of
the game loop, hence finite.
-/
namespace RealtimeGameServer.Source

inductive Json (R : Type*) where
  | null
  | bool (value : Bool)
  | num (value : R)
  | str (value : String)
  | arr (items : List (Json R))
  | obj (member : String → Option (Json R))

namespace Json
variable {R : Type*}

/-- `value.key`, `none` for `undefined` and for values that are no objects. -/
def field (value : Json R) (key : String) : Option (Json R) :=
  match value with
  | obj member => member key
  | _ => none

def asNum : Json R → Option R
  | num value => some value
  | _ => none

def asStr : Json R → Option String
  | str value => some value
  | _ => none

end Json

/-- `z.infer<typeof ClientMessageSchema>`. -/
inductive ClientMessage (R : Type*) where
  | joinSession (roomId : String) (reconnectToken : Option String)
  | input (input : MovementInput R)
  | ping (clientTime : R)
  | heartbeat
  | requestSnapshot
  deriving DecidableEq, Repr

inductive ServerMessage (R : Type*) where
  | snapshot (message : SnapshotMessage R)
  | pong (clientTime : R) (serverTime : Int)
  | error (code message : String)
  | joined (roomId playerId : String) (tick : Nat) (reconnectToken : String)
  | inputAck (seq : R) (tick : Nat)
  | heartbeat
  deriving DecidableEq, Repr

def isHexDigit (c : Char) : Bool :=
  ('0' ≤ c && c ≤ '9') || ('a' ≤ c && c ≤ 'f') || ('A' ≤ c && c ≤ 'F')

/-- `z.string().uuid()`: hexadecimal groups of 8, 4, 4, 4 and 12 joined by `-`. -/
def isUuid (s : String) : Bool :=
  s.toList.length = 36 && s.toList.zipIdx.all fun (c, i) =>
    if i = 8 || i = 13 || i = 18 || i = 23 then c = '-' else isHexDigit c

section Schema
variable {R : Type} [Field R] [LinearOrder R] [JsMath R]

/-- `z.number().min(-1).max(1)`. -/
def unitRange (value : R) : Bool := -1 ≤ value && value ≤ 1

/-- The checks of the `input` arm, on an object of the right shape. -/
def inputChecks (input : MovementInput R) : Bool :=
  JsMath.isInteger input.seq && 0 ≤ input.seq &&
  0 < input.dt && input.dt ≤ 0.25 &&
  unitRange input.move.x && unitRange input.move.y && unitRange input.move.z

def parseVec (value : Json R) : Option (Vec3 R) := do
  let x ← (← value.field "x").asNum
  let y ← (← value.field "y").asNum
  let z ← (← value.field "z").asNum
  some ⟨x, y, z⟩

/-- `z.string().optional()` on a member that may be `undefined`. -/
def optionalStr : Option (Json R) → Option (Option String)
  | none => some none
  | some value => value.asStr.map some

def parseJoinSession (value : Json R) : Option (String × Option String) := do
  let roomId ← (← value.field "roomId").asStr
  let reconnectToken ← optionalStr (value.field "reconnectToken")
  if isUuid roomId then some (roomId, reconnectToken) else none

def parseInput (value : Json R) : Option (MovementInput R) := do
  let seq ← (← value.field "seq").asNum
  let dt ← (← value.field "dt").asNum
  let move ← parseVec (← value.field "move")
  let look ← parseVec (← value.field "look")
  let input : MovementInput R := { seq, dt, move, look }
  if inputChecks input then some input else none

def parsePing (value : Json R) : Option R := do
  let clientTime ← (← value.field "clientTime").asNum
  if JsMath.isInteger clientTime && 0 ≤ clientTime then some clientTime else none

/-- `ClientMessageSchema.safeParse`, `none` for `success: false`. -/
def clientMessageSchema (value : Json R) : Option (ClientMessage R) := do
  match ← (← value.field "type").asStr with
  | "join_session" =>
    (parseJoinSession value).map fun (roomId, reconnectToken) =>
      .joinSession roomId reconnectToken
  | "input" => (parseInput value).map .input
  | "ping" => (parsePing value).map .ping
  | "heartbeat" => some .heartbeat
  | "request_snapshot" => some .requestSnapshot
  | _ => none

/-- An input the schema lets through has passed the checks of its arm. -/
theorem clientMessageSchema_input {value : Json R} {input : MovementInput R}
    (h : clientMessageSchema value = some (.input input)) : inputChecks input = true := by
  simp only [clientMessageSchema, Option.bind_eq_bind, Option.bind_eq_some_iff] at h
  obtain ⟨kind, -, tag, -, h⟩ := h
  split at h
  case h_2 =>
    obtain ⟨parsed, hparse, heq⟩ := Option.map_eq_some_iff.mp h
    cases heq
    simp only [parseInput, Option.bind_eq_bind, Option.bind_eq_some_iff] at hparse
    obtain ⟨_, -, seq, -, _, -, dt, -, _, -, move, -, _, -, look, -, hparse⟩ := hparse
    split at hparse
    next hchecks =>
      cases hparse
      exact hchecks
    next => cases hparse
  all_goals simp at h

/-- `{ x, y, z }`. -/
def vecFrame (v : Vec3 R) : Json R :=
  .obj fun key =>
    if key = "x" then some (.num v.x)
    else if key = "y" then some (.num v.y)
    else if key = "z" then some (.num v.z) else none

/-- `{ type: 'input', seq, dt, move, look }`. -/
def inputFrame (input : MovementInput R) : Json R :=
  .obj fun key =>
    if key = "type" then some (.str "input")
    else if key = "seq" then some (.num input.seq)
    else if key = "dt" then some (.num input.dt)
    else if key = "move" then some (vecFrame input.move)
    else if key = "look" then some (vecFrame input.look) else none

omit [Field R] [LinearOrder R] [JsMath R] in
theorem parseVec_vecFrame (v : Vec3 R) : parseVec (vecFrame v) = some v := by
  simp [parseVec, vecFrame, Json.field, Json.asNum]

theorem parseInput_inputFrame (input : MovementInput R) :
    parseInput (inputFrame input) = if inputChecks input then some input else none := by
  simp [parseInput, inputFrame, Json.field, Json.asNum, parseVec_vecFrame]

/-- The inputs the schema lets through are those that pass the checks. -/
theorem clientMessageSchema_input_iff (input : MovementInput R) :
    (∃ value, clientMessageSchema value = some (.input input)) ↔ inputChecks input = true := by
  constructor
  · rintro ⟨value, h⟩
    exact clientMessageSchema_input h
  · intro hchecks
    refine ⟨inputFrame input, ?_⟩
    have htag : (inputFrame input).field "type" = some (.str "input") := rfl
    simp only [clientMessageSchema, htag, Option.bind_eq_bind, Option.bind_some, Json.asStr,
      parseInput_inputFrame, if_pos hchecks, Option.map_some]

end Schema
end RealtimeGameServer.Source
